import ServiceDoubles.World

/-!
# ServiceDoubles.Client

Clients of a service that can be switched between stubbing and passing calls through. A client is a
handle: copies of it share the queue and the service. While its queue is active a call is answered
from the queue and the service is not involved; otherwise the service answers.
-/

namespace ServiceDoubles

/-- A handle to a client. Without operations it supports every operation. -/
structure Client where
  service : String
  region : String
  operations : List String
  /-- The cell of the service behind the client. -/
  backend : Nat
  /-- The cell of the client's queue. -/
  queue : Nat
deriving Repr, DecidableEq

namespace Client

variable {β υ : Type}

/-- The place that events of a client name. -/
def target : String := "stubkit::client"

/-- A client with a queue of its own. -/
def create (service region : String) (operations : List String) (backend : Nat) :
    Act (World β υ) Client := do
  let queue ← World.allocate
  return { service, region, operations, backend, queue }

/-- Whether the service has this operation. -/
def supports (c : Client) (operation : String) : Bool :=
  c.operations.isEmpty || c.operations.contains operation

/-- Fails unless the service has this operation. -/
def check (c : Client) (operation : String) : Except Fault Unit :=
  if c.supports operation then .ok () else .error (.unknownOperation c.service operation)

/-- Runs an action on the client's queue. -/
def onQueue {α : Type} (c : Client) (a : Act Queue α) : Act (World β υ) α := World.onQueue c.queue a

/-- The event of a call that `how` answers. -/
def callEvent (c : Client) (operation how : String) : Event :=
  ⟨.debug, target, how, [("service", .shown c.service), ("operation", .plain operation)]⟩

/-- Calls an operation of the service. -/
def call [Service β] (c : Client) (operation : String) (params : Json) : Act (World β υ) Json := do
  -- A call that the service does not have reaches neither the queue nor the service.
  Act.ofExcept (c.check operation)
  let queue ← c.onQueue Act.get
  if queue.active then
    Act.report (c.callEvent operation "Answering call from stub queue")
    c.onQueue (Queue.next operation params)
  else
    Act.report (c.callEvent operation "Passing call through to backend")
    World.onService c.backend (Service.call operation params)

/-- The outline of a client shows whom it talks to. -/
def outline (c : Client) : String :=
  Text.Outline.openRecord "ServiceClient"
    [("service_name", Text.quoted c.service), ("region", Text.quoted c.region)]

end Client

end ServiceDoubles
