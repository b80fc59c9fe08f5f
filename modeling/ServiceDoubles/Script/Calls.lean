import ServiceDoubles.Script.Bench

/-!
# ServiceDoubles.Script.Calls

The steps of a script that make services, clients and queues, and that make calls. Each step gives
the report that goes into the answer.
-/

namespace ServiceDoubles.Script

/-! ### Services -/

/-- Steps on services. -/
inductive BackendStep where
  | create (id : Id) (backend : Backend)
  | call (backend : Id) (operation : String) (params : Json)
  | bucketNames (backend : Id)
  | bucketLocation (backend : Id) (bucket : BucketName)

/-- Puts a service into a cell of its own. -/
def createBackend (backend : Backend) : Act Bench Nat := do
  let cell ← Bench.onWorld World.allocate
  Bench.onWorld (World.onService cell (Act.modify fun _ => backend))
  return cell

/-- What a step on services does. -/
def BackendStep.act (b : Bench) : BackendStep → Option (Act Bench Json)
  | create id backend =>
    some do
      let cell ← createBackend backend
      Act.modify fun b => { b with backends := b.backends.insert id cell }
      return .null
  | call id operation params => do
    let cell ← b.backends.get? id
    return Bench.onWorld (World.onService cell (Service.call operation params))
  | bucketNames id => do
    let cell ← b.backends.get? id
    let store ← (b.world.services.read cell).store?
    return Bench.reporting (Json.ofTexts store.names)
  | bucketLocation id bucket => do
    let cell ← b.backends.get? id
    let store ← (b.world.services.read cell).store?
    let name ← b.bucketName? bucket
    return Bench.reporting <| Json.ofText? (store.location? name)

/-! ### Clients -/

/-- Steps on clients. -/
inductive ClientStep where
  | create (id : Id) (service region : String) (operations : List String) (backend : Id)
  | createStorage (id : Id) (region : String) (backend : Id)
  | copy (id client : Id)
  | info (client : Id)
  | supports (client : Id) (operation : String)
  | check (client : Id) (operation : String)
  | call (client : Id) (operation : String) (params : Json)
  /-- A panic that strikes while the queue is in use. It leaves nothing behind. -/
  | poison (client : Id)

/-- Puts a client into the table. -/
def storeClient (id : Id) (client : Client) : Act Bench Unit :=
  Act.modify fun b => { b with clients := b.clients.insert id client }

/-- What a step on clients does. -/
def ClientStep.act (b : Bench) : ClientStep → Option (Act Bench Json)
  | create id service region operations backend => do
    let cell ← b.backends.get? backend
    return do
      storeClient id (← Bench.onWorld (Client.create service region operations cell))
      return .null
  | createStorage id region backend => do
    let cell ← b.backends.get? backend
    return do
      storeClient id (← Bench.onWorld (Storage.client region cell))
      return .null
  | copy id client => do
    let c ← b.clients.get? client
    return do
      storeClient id c
      return .null
  | info client => do
    let c ← b.clients.get? client
    return Bench.reporting <| Json.record
      [("service", .string c.service), ("region", .string c.region), ("debug", .string c.outline)]
  | supports client operation => do
    let c ← b.clients.get? client
    return Bench.reporting (.bool (c.supports operation))
  | check client operation => do
    let c ← b.clients.get? client
    return do
      Act.ofExcept (c.check operation)
      return .null
  | call client operation params => do
    let c ← b.clients.get? client
    return Bench.onWorld (c.call operation params)
  | poison client => do
    let _ ← b.clients.get? client
    return Bench.reporting (.bool true)

/-! ### Queues -/

/-- A queue: one of its own, or that of a client. -/
inductive QueueName where
  | queue (id : Id)
  | ofClient (id : Id)
deriving Repr, DecidableEq

/-- What is done with a queue. -/
inductive QueueAction where
  | add (call : StubbedCall)
  | setActive (active : Bool)
  | next (operation : String) (params : Json)
  | state
  | checkDone

/-- Steps on queues. -/
inductive QueueStep where
  | create (id : Id)
  | on (queue : QueueName) (action : QueueAction)

/-- The cell of a queue. -/
def Bench.queueCell? (b : Bench) : QueueName → Option Nat
  | .queue id => b.queues.get? id
  | .ofClient id => (b.clients.get? id).map (·.queue)

/-- The report of a queue. -/
def queueReport (q : Queue) : Json :=
  Json.record
    [("active", .bool q.active), ("len", Json.ofNat q.calls.length),
     ("empty", .bool q.calls.isEmpty), ("consumed", Json.ofNat q.consumed),
     ("pending", Json.ofTexts q.pending)]

/-- What an action on a queue does. -/
def QueueAction.act : QueueAction → Act Queue Json
  | add call => do
    Queue.add call
    return .null
  | setActive active => do
    Act.modify (Queue.setActive active)
    return .null
  | next operation params => Queue.next operation params
  | state => return queueReport (← Act.get)
  | checkDone => do
    Act.ofExcept (← Act.get).checkDone
    return .null

/-- What a step on queues does. -/
def QueueStep.act (b : Bench) : QueueStep → Option (Act Bench Json)
  | create id =>
    some do
      let cell ← Bench.onWorld World.allocate
      Act.modify fun b => { b with queues := b.queues.insert id cell }
      return .null
  | on queue action => do
    let cell ← b.queueCell? queue
    return Bench.onWorld (World.onQueue cell action.act)

end ServiceDoubles.Script
