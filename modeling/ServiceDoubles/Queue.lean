import ServiceDoubles.Act
import ServiceDoubles.Pattern

/-!
# ServiceDoubles.Queue

The queue of stubbed calls behind a client. It holds the calls that a test expects, in order. A call
must be for the operation at the head of the queue and its parameters must be accepted there; then
the head is consumed and its reply is the answer. Any other call is refused and leaves the queue
alone.
-/

namespace ServiceDoubles

/-- What a stubbed call answers. -/
inductive Reply where
  /-- The service's response. -/
  | response (value : Json)
  /-- A failure of the service. -/
  | failure (code message : String)

/-- The answer of a reply. -/
def Reply.outcome : Reply → Outcome Json
  | response value => .ok value
  | failure code message => .fault (.service code message)

/-- One expected call. Without expected parameters it accepts any. -/
structure StubbedCall where
  operation : String
  expected : Option Json
  reply : Reply

/-- Whether the stubbed call accepts these parameters. -/
def StubbedCall.accepts (c : StubbedCall) (params : Json) : Bool :=
  match c.expected with
  | none => true
  | some e => Pattern.accepts e params

/-- Stubbed calls in the order in which they are expected. `active` tells whether a client answers
from the queue, and `consumed` counts the calls that were. -/
structure Queue where
  active : Bool := false
  calls : List StubbedCall := []
  consumed : Nat := 0

namespace Queue

instance : Inhabited Queue := ⟨{}⟩

/-- The place that events of a queue name. -/
def target : String := "stubkit::stub"

/-- The queue with one more call at its end. -/
def push (q : Queue) (c : StubbedCall) : Queue := { q with calls := q.calls ++ [c] }

/-- Starts or stops answering from the queue. The calls stay. -/
def setActive (active : Bool) (q : Queue) : Queue := { q with active }

/-- The operations that are still expected, in order. -/
def pending (q : Queue) : List String := q.calls.map (·.operation)

/-- The stubbed call that a call consumes, or why it is refused. -/
def head (q : Queue) (operation : String) (params : Json) : Except Fault StubbedCall :=
  match q.calls with
  | [] => .error (.noResponse operation)
  | c :: _ =>
    -- The parameters of another operation say nothing, so the operation is compared first.
    if c.operation ≠ operation then .error (.unexpectedCall c.operation operation)
    else
      match c.expected with
      | none => .ok c
      | some e =>
        if Pattern.accepts e params then .ok c else .error (.paramMismatch operation e params)

/-- The queue without its head, which counts as consumed. -/
def pop (q : Queue) : Queue := { q with calls := q.calls.tail, consumed := q.consumed + 1 }

/-- Fails if a stubbed call is left over. -/
def checkDone (q : Queue) : Except Fault Unit :=
  if q.calls.isEmpty then .ok () else .error (.pendingResponses q.pending)

/-! ### Actions on a queue -/

/-- The event of a stubbed call that is queued. -/
def queuedEvent (c : StubbedCall) : Event :=
  match c.reply with
  | .response _ =>
    ⟨.debug, target, "Queued stubbed response", [("operation", .shown c.operation)]⟩
  | .failure code _ =>
    ⟨.debug, target, "Queued stubbed client error",
      [("operation", .shown c.operation), ("code", .shown code)]⟩

/-- Queues a stubbed call. -/
def add (c : StubbedCall) : Act Queue Unit := fun q => ⟨.ok (), q.push c, [queuedEvent c]⟩

/-- The event of a call that consumed the head and left `remaining` calls. -/
def consumedEvent (operation : String) (remaining : Nat) : Event :=
  ⟨.debug, target, "Consumed stubbed call",
    [("operation", .plain operation), ("remaining", .shown (intText remaining))]⟩

/-- Answers a call from the head of the queue. -/
def next (operation : String) (params : Json) : Act Queue Json := fun q =>
  match q.head operation params with
  | .error cause => ⟨.fault cause, q, []⟩
  | .ok c => ⟨c.reply.outcome, q.pop, [consumedEvent operation q.pop.calls.length]⟩

end Queue

end ServiceDoubles
