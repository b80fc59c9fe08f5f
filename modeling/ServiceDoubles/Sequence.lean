import ServiceDoubles.Act

/-!
# ServiceDoubles.Sequence

Sequences of stubs. A test that wants to see each of its calls fail once lists its stubs in order
and runs the list again and again, each time with a failure at another place.
-/

namespace ServiceDoubles

/-- A named step of a sequence. It gets the code of the failure to arrange, if any. -/
structure Entry (σ : Type) where
  name : String
  invoke : Option String → Act σ Unit

/-- The outline of an entry. -/
def Entry.outline {σ : Type} (e : Entry σ) : String :=
  Text.Outline.openRecord "StubEntry" [("name", Text.quoted e.name)]

/-- Where a sequence fails and where it ends. -/
structure RunOptions where
  /-- The entries that get the code. -/
  failing : Option String := none
  code : String := "TestException"
  /-- The sequence ends after an entry that got a code. -/
  stopOnError : Bool := true
  /-- The sequence ends after its first entry. -/
  stopAlways : Bool := false
deriving Repr, DecidableEq

namespace RunOptions

/-- The code that an entry gets. -/
def codeFor (o : RunOptions) (name : String) : Option String :=
  if o.failing = some name then some o.code else none

/-- Whether the sequence ends after an entry that got this code. An empty code does not count. -/
def endsAfter (o : RunOptions) (code : Option String) : Bool :=
  o.stopAlways || (o.stopOnError && code.any (· ≠ ""))

/-- The outline of options. -/
def outline (o : RunOptions) : String :=
  Text.Outline.record "RunOptions"
    [("func_name", Text.Outline.optionalText o.failing), ("error_code", Text.quoted o.code),
     ("stop_on_error", Text.Outline.bool o.stopOnError),
     ("stop_always", Text.Outline.bool o.stopAlways)]

end RunOptions

namespace Sequence

variable {σ : Type}

/-- The place that events of a sequence name. -/
def target : String := "stubkit::controller"

/-- The event of an entry that is about to run. -/
def runningEvent (name : String) (code : Option String) : Event :=
  ⟨.debug, target, "Running stub",
    [("stub", .shown name), ("error_code", .shown (Text.Outline.optionalText code))]⟩

/-- Runs the entries in order and gives how many ran. An entry that fails ends the sequence. -/
def run (o : RunOptions) : List (Entry σ) → Act σ Nat
  | [] => return 0
  | e :: rest => do
    let code := o.codeFor e.name
    Act.report (runningEvent e.name code)
    e.invoke code
    -- An entry that failed has already ended the sequence.
    if o.endsAfter code then return 1
    return (← run o rest) + 1

/-- Runs all entries without a failure. -/
def runAll (entries : List (Entry σ)) : Act σ Nat := run {} entries

/-- The outline of a sequence. -/
def outline (entries : List (Entry σ)) : String :=
  Text.Outline.record "StubController"
    [("stubs", Text.Outline.list (entries.map (·.outline)))]

end Sequence

end ServiceDoubles
