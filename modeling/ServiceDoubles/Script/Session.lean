import ServiceDoubles.Script.Sequences
import ServiceDoubles.Text.Line

/-!
# ServiceDoubles.Script.Session

Scripted sessions: a list of steps on a fresh bench, and a report for each step.

Design points:
- The report of a step holds its outcome, what the journal gained, the state of the queues that are
  watched, and the events, as far as they were asked for.
- Unique names differ from run to run. A report shows the name given first as `<gen:1>`, the next as
  `<gen:2>`, and so on, wherever it occurs in a text.
-/

namespace ServiceDoubles.Script

/-- A step. -/
inductive Step where
  | backend (step : BackendStep)
  | client (step : ClientStep)
  | queue (step : QueueStep)
  | resource (step : ResourceStep)
  | bucket (step : BucketStep)
  | stubber (step : StubberStep)
  | registry (step : RegistryStep)
  | scope (step : ScopeStep)
  | sequence (step : SequenceStep)
  | runner (step : RunnerStep)

/-- What a step does; nothing if it names an object that is not there. -/
def Step.act (b : Bench) : Step → Option (Act Bench Json)
  | backend step => step.act b
  | client step => step.act b
  | queue step => step.act b
  | resource step => step.act b
  | bucket step => step.act b
  | stubber step => step.act b
  | registry step => step.act b
  | scope step => step.act b
  | sequence step => step.act b
  | runner step => step.act b

/-! ### Reports -/

/-- The text of a fault in a report, where a fault of the configuration has only its first line. -/
def faultText (cause : Fault) : String :=
  match cause with
  | .config _ => Text.firstLine cause.message
  | _ => cause.message

/-- The report of a fault. -/
def faultFields (cause : Fault) : List (String × Json) :=
  [("error", .string cause.kind), ("message", .string (faultText cause))]

/-- The report of an outcome. -/
def outcomeFields : Outcome Json → List (String × Json)
  | .ok value => [("ok", value)]
  | .fault cause => faultFields cause
  | .unwound reason => [("panic", .string reason)]

/-- The report of a step that has no meaning. -/
def senseless : List (String × Json) :=
  [("error", .string "BadInput"), ("message", .string "unknown step or object")]

/-- The report of an event. -/
def eventReport (e : Event) : Json :=
  Json.record
    [("level", .string e.level.label), ("target", .string e.target), ("message", .string e.message),
     ("fields", Json.record (e.fields.map fun f => (f.1, .string f.2.text)))]

/-- The report of a queue that is watched. -/
def watchReport (q : Queue) : Json :=
  .array [.bool q.active, Json.ofNat q.consumed, Json.ofTexts q.pending]

/-- What a session is to report besides the outcomes. -/
structure Reporting where
  /-- The clients whose queues are watched. -/
  watch : List Id := []
  /-- Whether events are reported. -/
  trace : Bool := false

/-- The queues that are watched, of those clients that are there. -/
def watchFields (watch : List Id) (b : Bench) : List (String × Json) :=
  watch.filterMap fun id =>
    (b.clients.get? id).map fun c => (id, watchReport (b.world.queues.read c.queue))

/-! ### Unique names -/

/-- Replaces `old`, which is not empty, by `new` wherever it occurs. -/
def replaced (old new : List Char) : List Char → List Char
  | [] => []
  | c :: rest =>
    if old.isPrefixOf (c :: rest) then new ++ replaced old new (rest.drop (old.length - 1))
    else c :: replaced old new rest
termination_by s => s.length
decreasing_by all_goals simp only [List.length_drop, List.length_cons]; omega

/-- The text with each of the names replaced by its number. -/
def anonymous (names : List String) (text : String) : String :=
  String.ofList <| names.zipIdx.foldl
    (fun s p => replaced p.1.toList ("<gen:" ++ intText (p.2 + 1) ++ ">").toList s) text.toList

mutual
/-- Changes every text of a value. -/
def mapTexts (f : String → String) : Json → Json
  | .string s => .string (f s)
  | .array items => .array (mapItemTexts f items)
  | .object fields => .object (mapFieldTexts f fields)
  | j => j
/-- Changes every text of the items. -/
def mapItemTexts (f : String → String) : List Json → List Json
  | [] => []
  | item :: more => mapTexts f item :: mapItemTexts f more
/-- Changes every text of the fields. Keys stay as they are. -/
def mapFieldTexts (f : String → String) : List (String × Json) → List (String × Json)
  | [] => []
  | (key, value) :: more => (key, mapTexts f value) :: mapFieldTexts f more
end

/-! ### Running -/

/-- The report of a step that did `r`. -/
def stepReport (how : Reporting) (r : Run Bench Json) : Json :=
  let calls := r.state.world.own
  mapTexts (anonymous r.state.names) <| Json.record <|
    outcomeFields r.outcome ++
    (if calls.isEmpty then [] else [("calls", .array (calls.map Record.report))]) ++
    (if how.watch.isEmpty then [] else [("watch", Json.record (watchFields how.watch r.state))]) ++
    (if how.trace then [("events", .array (r.events.map eventReport))] else [])

/-- The bench with an empty journal. -/
def Bench.clearJournal (b : Bench) : Bench := { b with world := { b.world with own := [] } }

/-- Runs one step: the bench after it, and its report. -/
def runStep (how : Reporting) (b : Bench) (step : Option Step) : Bench × Json :=
  match step.bind (·.act b.clearJournal) with
  | none => (b, Json.record senseless)
  | some a =>
    -- The journal of a step starts empty, so that its report shows this step alone.
    let r := a b.clearJournal
    (r.state, stepReport how r)

/-- Runs steps in order and gives their reports. A step that could not be read is `none`. -/
def runSteps (how : Reporting) (b : Bench) : List (Option Step) → List Json
  | [] => []
  | step :: rest =>
    let r := runStep how b step
    r.2 :: runSteps how r.1 rest

/-- Runs a session from a fresh bench, at a time when the clock shows `clock`. -/
def runSession (clock : Int) (how : Reporting) (steps : List (Option Step)) : List Json :=
  runSteps how (Bench.fresh clock) steps

end ServiceDoubles.Script
