import ServiceDoubles.Config.Cache
import ServiceDoubles.Marker
import ServiceDoubles.Registry

/-!
# ServiceDoubles.Scope

The scope of a test: its configuration, the stubbers it may build, and the cleanups that are to run
when the test is over.

Design points:
- Cleanups are actions on a state of any type. They run from the last that was added to the first,
  each in the state that the one before it left, and a cleanup that fails does not keep the others
  from running. The first failure is reported.
- A cleanup that unwinds does stop the run. What becomes of the cleanups that are left depends on
  how the scope was ended (`Scope.finish`, `Scope.drop`).
-/

namespace ServiceDoubles

/-- A cleanup with its name. -/
structure Finalizer (σ : Type) where
  name : String
  action : Act σ Unit

/-- A scope. The finalizers are in the order in which they were added. -/
structure Scope (σ : Type) where
  config : Config
  registry : Registry σ
  finalizers : List (Finalizer σ)

namespace Scope

variable {σ : Type}

/-- A scope without finalizers. -/
def start (config : Config) (registry : Registry σ) : Scope σ := ⟨config, registry, []⟩

/-- A scope with the configuration of the process and the stubbers that come with the library. -/
def ofProcess {β υ : Type} (env : Config.Environment) : Act Config.Cache (Scope (World β υ)) := do
  return start (← Config.load env) Registry.builtIn

/-- The place that events of a scope name. -/
def target : String := "stubkit::scope"

/-- The field that names a finalizer. -/
def nameField (name : String) : String × FieldValue := ("finalizer", .shown name)

/-- The field that tells a fault. -/
def causeField (cause : Fault) : String × FieldValue := ("error", .shown cause.message)

/-- The event of a finalizer that is added. -/
def addedEvent (name : String) : Event :=
  ⟨.debug, target, "Registered finalizer", [nameField name]⟩

/-- The event of a finalizer that is about to run. -/
def runningEvent (name : String) : Event :=
  ⟨.debug, target, "Running finalizer", [nameField name]⟩

/-- The event of a finalizer that failed. -/
def failedEvent (name : String) (cause : Fault) : Event :=
  ⟨.warn, target, "Finalizer failed", [nameField name, causeField cause]⟩

/-- The event of a cleanup that failed while the test was unwinding. -/
def lostEvent (cause : Fault) : Event :=
  ⟨.error, target, "Fixture teardown failed while unwinding", [causeField cause]⟩

/-- Adds a finalizer. -/
def add (f : Finalizer σ) : Act (Scope σ) Unit := fun s =>
  ⟨.ok (), { s with finalizers := s.finalizers ++ [f] }, [addedEvent f.name]⟩

/-! ### Running the finalizers -/

/-- How a run of finalizers ended: with the first failure, if any, or by unwinding; and the
finalizers that it did not reach. -/
structure Swept (σ : Type) where
  ending : Outcome Unit
  left : List (Finalizer σ)

/-- The run with an earlier failure, which is the one to report unless the run unwinds. -/
def Swept.after (cause : Fault) (swept : Swept σ) : Swept σ :=
  match swept.ending with
  | .unwound _ => swept
  | _ => { swept with ending := .fault cause }

/-- Runs the finalizers of a list, from its front. -/
def sweep : List (Finalizer σ) → Act σ (Swept σ)
  | [] => return ⟨.ok (), []⟩
  | f :: rest => do
    Act.report (runningEvent f.name)
    match ← Act.settle f.action with
    | .ok () => sweep rest
    -- A later failure is told here as well, but the earlier one is reported.
    | .fault cause => do
      Act.report (failedEvent f.name cause)
      return (← sweep rest).after cause
    | .unwound reason => return ⟨.unwound reason, rest⟩

/-- What happens to finalizers when their scope goes away on a normal path: they run, and a failure
unwinds the test. Finalizers behind one that unwinds never run. -/
def release (finalizers : List (Finalizer σ)) : Act σ Unit := do
  let swept ← sweep finalizers
  match swept.ending with
  | .fault cause => Act.unwind ("Fixture teardown failed: " ++ cause.message)
  | ending => Act.ofOutcome ending

/-- What happens to finalizers when their scope goes away while the test unwinds: they run, and a
failure is only told. -/
def releaseUnwinding (finalizers : List (Finalizer σ)) : Act σ Unit := do
  let swept ← sweep finalizers
  match swept.ending with
  | .fault cause => Act.report (lostEvent cause)
  | ending => Act.ofOutcome ending

/-- The finalizers in the order in which they run. -/
def runOrder (s : Scope σ) : List (Finalizer σ) := s.finalizers.reverse

/-- Ends the scope and gives the first failure. The finalizers that were not reached are left to the
scope's going away. -/
def finish (s : Scope σ) : Act σ Unit := do
  let swept ← sweep s.runOrder
  -- Unless a finalizer unwound nothing is left, and releasing nothing does nothing.
  match swept.ending with
  | .unwound _ => releaseUnwinding swept.left
  | _ => release swept.left
  Act.ofOutcome swept.ending

/-- Lets the scope go away on a normal path. -/
def drop (s : Scope σ) : Act σ Unit := release s.runOrder

/-- Lets the scope go away while the test unwinds. -/
def dropUnwinding (s : Scope σ) : Act σ Unit := releaseUnwinding s.runOrder

/-- The outline of a scope. -/
def outline (s : Scope σ) : String :=
  Text.Outline.record "FixtureScope"
    [("config", s.config.outline), ("registry", s.registry.outline),
     ("finalizers", Text.Outline.texts (s.finalizers.map (·.name)))]

end Scope

end ServiceDoubles
