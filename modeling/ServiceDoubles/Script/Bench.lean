import ServiceDoubles.Fixture
import ServiceDoubles.Runner
import ServiceDoubles.Storage.Store

/-!
# ServiceDoubles.Script.Bench

The bench that scripted sessions work on: objects under names of the script's choice, one table for
each sort of object, over one world.

Design points:
- The steps of a script refer to objects by their name in the table. A step whose names are not
  there has no meaning; the functions that find objects give `none` then.
- Recorded calls and finalizers write what they did into a journal, which is the test's own part of
  the world.
-/

namespace ServiceDoubles.Script

/-- The name of an object on the bench. -/
abbrev Id := String

/-- What the journal holds. -/
inductive Record where
  /-- A recorded call ran and got this code. -/
  | call (name : String) (code : Option String)
  /-- A recorded finalizer ran. -/
  | finalizer (name : String)
deriving Repr, DecidableEq

/-- The services of sessions. -/
inductive Backend where
  /-- A storage service in memory. -/
  | storage (store : Storage.Store)
  /-- Answers with the call itself. -/
  | echo
  /-- Fails each call. -/
  | failing
  /-- Unwinds at each call. -/
  | unwinding
  /-- Always gives the same response. -/
  | fixed (response : Json)

namespace Backend

instance : Inhabited Backend := ⟨echo⟩

/-- The store of a storage service. -/
def store? : Backend → Option Storage.Store
  | storage s => some s
  | _ => none

/-- The answer to a call. -/
def answer (operation : String) (params : Json) : Act Backend Json := fun b =>
  match b with
  | storage s =>
    let r := Storage.Store.call operation params s
    ⟨r.outcome, storage r.state, r.events⟩
  | echo => ⟨.ok (Json.record [("operation", .string operation), ("params", params)]), b, []⟩
  | failing => ⟨.fault (.service "BackendFailure" operation), b, []⟩
  | unwinding => ⟨.unwound ("backend reached: " ++ operation), b, []⟩
  | fixed response => ⟨.ok response, b, []⟩

instance : Service Backend := ⟨answer⟩

end Backend

/-- The world of sessions. -/
abbrev SessionWorld := World Backend (List Record)

/-- A stubber on the bench. An erased one shows only what all stubbers have. -/
structure StubberObject where
  stubber : AnyStubber SessionWorld
  erased : Bool

/-- A runner on the bench. -/
structure RunnerObject where
  runner : Runner SessionWorld
  isScoped : Bool

/-- The bench. -/
structure Bench where
  world : SessionWorld
  /-- The cells of services. -/
  backends : SortedMap Nat
  clients : SortedMap Client
  /-- The cells of queues that belong to no client. -/
  queues : SortedMap Nat
  /-- The clients of storage services that work through handles. -/
  resources : SortedMap Client
  buckets : SortedMap Storage.Handle
  stubbers : SortedMap StubberObject
  registries : SortedMap (Registry SessionWorld)
  scopes : SortedMap (Scope SessionWorld)
  sequences : SortedMap (List (Entry SessionWorld))
  runners : SortedMap RunnerObject
  /-- The unique names that were given, in order. -/
  names : List String
  /-- What the clock shows. -/
  clock : Int

namespace Bench

/-- The empty bench. -/
def fresh (clock : Int) : Bench where
  world := World.fresh []
  backends := SortedMap.empty
  clients := SortedMap.empty
  queues := SortedMap.empty
  resources := SortedMap.empty
  buckets := SortedMap.empty
  stubbers := SortedMap.empty
  registries := SortedMap.empty
  scopes := SortedMap.empty
  sequences := SortedMap.empty
  runners := SortedMap.empty
  names := []
  clock

variable {α : Type}

/-- Runs an action on the world. -/
def onWorld (a : Act SessionWorld α) : Act Bench α :=
  Act.onPart (·.world) (fun b world => { b with world }) a

/-- Runs an action on a scope and the world. The scope keeps its place under `id`. -/
def onSetting (id : Id) (scope : Scope SessionWorld) (a : Act (Setting Backend (List Record)) α) :
    Act Bench α :=
  Act.onPart (fun b => ⟨scope, b.world⟩)
    (fun b s => { b with world := s.world, scopes := b.scopes.insert id s.scope }) a

/-- Only reports. -/
def reporting (report : Json) : Act Bench Json := Act.pure report

/-- Notes a unique name that was given. -/
def noteName (name : String) : Act Bench Unit :=
  Act.modify fun b => { b with names := b.names ++ [name] }

end Bench

/-! ### Journaled actions -/

/-- What a recorded call or finalizer does after it was noted: it unwinds, or fails, or succeeds. -/
structure Behaviour where
  fails : Option Fault := none
  unwinds : Option String := none

/-- Notes a record and then behaves so. -/
def recorded {β : Type} (r : Record) (b : Behaviour) : Act (World β (List Record)) Unit := do
  World.onOwn (Act.modify (· ++ [r]))
  match b.unwinds, b.fails with
  | some reason, _ => Act.unwind reason
  | none, some cause => Act.fail cause
  | none, none => return ()

/-- The journal entry as a report shows it. -/
def Record.report : Record → Json
  | call name code => .array [.string name, Json.ofText? code]
  | finalizer name => Json.ofTexts ["finalizer", name]

/-! ### Names of buckets -/

/-- The name of a bucket: given as such, or that of a handle. -/
inductive BucketName where
  | literal (name : String)
  | ofHandle (id : Id)
deriving Repr, DecidableEq

/-- The name, if the handle is there. -/
def Bench.bucketName? (b : Bench) : BucketName → Option String
  | .literal name => some name
  | .ofHandle id => (b.buckets.get? id).map (·.name)

/-- A stub for a bucket that is named later. -/
structure StubOrder where
  bucket : BucketName
  stub : String → Storage.Stub

/-- The stub, if the handle that names its bucket is there. -/
def Bench.stub? (b : Bench) (o : StubOrder) : Option Storage.Stub :=
  (b.bucketName? o.bucket).map o.stub

/-! ### Kinds of stubbers -/

/-- The kind of stubbers that a session brings along. -/
def customKind : StubberKind := ⟨"oracle_driver::CustomStubber"⟩

/-- The stubber under `id`, if it is there and its kind is known. -/
def Bench.typed? (b : Bench) (kind : StubberKind) (id : Id) : Option Stubber := do
  let o ← b.stubbers.get? id
  match o.stubber.concrete with
  | .common s => if !o.erased && s.kind = kind then some s else none
  | .foreign _ => none

end ServiceDoubles.Script
