import ServiceDoubles.Sequence

/-!
# ServiceDoubles.Runner

Runners of stubs. A runner goes through its entries until it comes to the method it stops at; that
entry gets the runner's code, and nothing behind it runs. Without such a method every entry runs, so
that one test body covers the good case and each failure.

A *scoped* runner runs when it goes away, on whatever path (`Runner.finish`, `Runner.drop`,
`Runner.dropUnwinding`).
-/

namespace ServiceDoubles

/-- An entry, with the service it stubs as far as that is known. -/
structure RunnerEntry (σ : Type) where
  service : String
  entry : Entry σ

/-- A runner. -/
structure Runner (σ : Type) where
  code : Option String
  stopMethod : Option String
  entries : List (RunnerEntry σ) := []

namespace Runner

variable {σ : Type}

/-- The names of the entries, in order. -/
def names (r : Runner σ) : List String := r.entries.map (·.entry.name)

/-- Adds an entry that stubs a known service. -/
def addFor (r : Runner σ) (service : String) (e : Entry σ) : Runner σ :=
  { r with entries := r.entries ++ [⟨service, e⟩] }

/-- Adds an entry. -/
def add (r : Runner σ) (e : Entry σ) : Runner σ := r.addFor "" e

/-- The place that events of a runner name. -/
def target : String := "stubkit::runner"

/-- The event of a stop method that no entry has. -/
def unmatchedEvent (stop : String) (names : List String) : Event :=
  ⟨.warn, target, "No stub matches the stop method, no error will be injected",
    [("stop_on_method", .shown stop), ("stubs", .shown (Text.Outline.texts names))]⟩

/-- The event of an entry that is about to run. -/
def addingEvent (service name : String) (code : Option String) : Event :=
  ⟨.debug, target, "Adding stubbed response",
    [("service", .shown service), ("method", .shown name),
     ("error_code", .shown (Text.Outline.optionalText code))]⟩

/-- Warns of a stop method that no entry has. -/
def warnUnmatched (r : Runner σ) : Act σ Unit :=
  match r.stopMethod with
  | none => return ()
  | some stop =>
    if r.names.contains stop then return () else Act.report (unmatchedEvent stop r.names)

/-- Runs entries in order up to and with the one to stop at, which gets the code, and gives how many
ran. An entry that fails ends the run. -/
def runEntries (code stop : Option String) : List (RunnerEntry σ) → Act σ Nat
  | [] => return 0
  | e :: rest => do
    let stopHere := stop = some e.entry.name
    let given := if stopHere then code else none
    Act.report (addingEvent e.service e.entry.name given)
    e.entry.invoke given
    -- The entry to stop at ends the run even if the runner has no code to give it.
    if stopHere then return 1
    return (← runEntries code stop rest) + 1

/-- Runs the entries and gives how many ran. -/
def run (r : Runner σ) : Act σ Nat := do
  r.warnUnmatched
  runEntries r.code r.stopMethod r.entries

/-- The outline of a runner. -/
def outline (r : Runner σ) : String :=
  Text.Outline.record "StubRunner"
    [("stubs", Text.Outline.texts r.names), ("error_code", Text.Outline.optionalText r.code),
     ("stop_on_method", Text.Outline.optionalText r.stopMethod)]

/-! ### Scoped runners -/

/-- The event of a run that failed while the test was unwinding. -/
def lostEvent (cause : Fault) : Event :=
  ⟨.error, target, "Stub runner failed while unwinding", [("error", .shown cause.message)]⟩

/-- What happens to a runner that goes away on a normal path: it runs unless it is `done`, and a
failure unwinds the test. -/
def release (r : Runner σ) (done : Bool) : Act σ Unit :=
  if done then return ()
  else do
    match ← Act.attempt r.run with
    | .ok _ => return ()
    | .error cause => Act.unwind ("Stub runner failed: " ++ cause.message)

/-- What happens to a runner that goes away while the test unwinds: it runs unless it is `done`, and
a failure is only told. -/
def releaseUnwinding (r : Runner σ) (done : Bool) : Act σ Unit :=
  if done then return ()
  else do
    match ← Act.attempt r.run with
    | .ok _ => return ()
    | .error cause => Act.report (lostEvent cause)

/-- Runs a scoped runner now; it is done when it goes away. -/
def finish (r : Runner σ) : Act σ Nat := do
  let result ← Act.settle r.run
  match result with
  | .unwound _ => r.releaseUnwinding true
  | _ => r.release true
  Act.ofOutcome result

/-- Lets a scoped runner go away on a normal path. -/
def drop (r : Runner σ) : Act σ Unit := r.release false

/-- Lets a scoped runner go away while the test unwinds. -/
def dropUnwinding (r : Runner σ) : Act σ Unit := r.releaseUnwinding false

/-- Runs an action with a state at its side, and gives what it made of that. -/
def beside {τ α : Type} (t : τ) (a : Act (τ × σ) α) : Act σ (Outcome α × τ) := fun s =>
  let r := a (t, s)
  ⟨.ok (r.outcome, r.state.1), r.state.2, r.events⟩

/-- Lets `body` fill a runner, and then runs it. It runs also if the body unwinds. -/
def within (code stop : Option String) (body : Act (Runner σ × σ) Unit) : Act σ Nat := do
  let (ending, r) ← beside { code, stopMethod := stop } body
  match ending with
  | .ok () => r.finish
  | .fault cause => do
    r.drop
    Act.fail cause
  | .unwound reason => do
    r.dropUnwinding
    Act.unwind reason

/-- The outline of a scoped runner. -/
def scopedOutline (r : Runner σ) : String :=
  Text.Outline.record "ScopedStubRunner"
    [("runner", r.outline), ("done", Text.Outline.bool false)]

end Runner

end ServiceDoubles
