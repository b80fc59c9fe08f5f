import ServiceDoubles.Act
import ServiceDoubles.Config.Basic

/-!
# ServiceDoubles.Marker

Marks that tests carry, and whether a marked test runs.
-/

namespace ServiceDoubles

/-- A mark of a test. -/
inductive Marker where
  /-- The test works with made-up data, so that it runs only when calls are stubbed. -/
  | stubbedOnly
deriving Repr, DecidableEq

namespace Marker

/-- The name of the mark. -/
def name : Marker → String
  | stubbedOnly => "skip_if_real_aws"

/-- What the mark asks for. -/
def description : Marker → String
  | stubbedOnly => "mark test to run only when stubbed."

/-- Why a test that runs only when stubbed is skipped. -/
def skipReason : String :=
  "When run with actual AWS services instead of stub functions, this test will fail because it " ++
    "uses test data. To run this test with AWS services, you must first substitute actual data, " ++
    "such as user IDs, for test data."

/-- The place that events of marks name. -/
def target : String := "stubkit::marker"

/-- The event of a test that is skipped. -/
def skipEvent : Event :=
  ⟨.warn, target, "Skipping test",
    [("marker", .plain stubbedOnly.name), ("description", .plain stubbedOnly.description),
     ("reason", .plain skipReason)]⟩

/-- Why a test with these marks is skipped under a configuration; `none` if it runs. -/
def skip? (config : Config) (markers : List Marker) : Option String :=
  if stubbedOnly ∈ markers ∧ config.useRealService then some skipReason else none

/-- Decides whether a test runs, and reports one that is skipped. -/
def setup {σ : Type} (config : Config) (markers : List Marker) : Act σ (Option String) := fun s =>
  match skip? config markers with
  | some reason => ⟨.ok (some reason), s, [skipEvent]⟩
  | none => ⟨.ok none, s, []⟩

end Marker

end ServiceDoubles
