import ServiceDoubles.Script.Bench

/-!
# ServiceDoubles.Script.Stubbers

The steps of a script on stubbers and on registries of stubbers.
-/

namespace ServiceDoubles.Script

/-! ### Stubbers -/

/-- The kinds of stubbers that a script can name. -/
inductive KindName where
  | storage
  | custom
deriving Repr, DecidableEq

namespace KindName

/-- The kind. -/
def kind : KindName → StubberKind
  | storage => Storage.stubberKind
  | custom => customKind

/-- The word for the kind. -/
def word : KindName → String
  | storage => "s3"
  | custom => "custom"

/-- A stubber of the kind. -/
def stubber (k : KindName) (client : Client) (useStubs : Bool) : Stubber :=
  ⟨k.kind, client, useStubs⟩

/-- The name of a kind. -/
def ofKind (kind : StubberKind) : KindName := if kind = Storage.stubberKind then storage else custom

end KindName

/-- Steps on stubbers. -/
inductive StubberStep where
  | create (id : Id) (kind : KindName) (client : Id) (useStubs : Bool)
  | info (stubber : Id)
  | stub (stubber : Id) (order : StubOrder) (code : Option String)
  | stubRaw (stubber : Id) (operation : String) (expected : Option Json) (response : Json)
      (code : Option String)
  | activate (stubber : Id)
  | deactivate (stubber : Id)
  | checkDone (stubber : Id)
  | outline (stubber : Id)
  /-- Finds out the kind of an erased stubber. -/
  | recover (stubber : Id)

/-- Asks a stubber for what is reported of it. -/
def stubberReport (s : AnyStubber SessionWorld) : Act SessionWorld Json := do
  return Json.record [("service", .string (← s.service)), ("use_stubs", .bool (← s.useStubs))]

/-- Puts a stubber into the table and reports it. -/
def storeStubber (id : Id) (s : AnyStubber SessionWorld) (erased : Bool) : Act Bench Json := do
  Act.modify fun b => { b with stubbers := b.stubbers.insert id ⟨s, erased⟩ }
  Bench.onWorld (stubberReport s)

/-- The outline of a stubber whose kind is known. -/
def stubberOutline (s : Stubber) : String :=
  match KindName.ofKind s.kind with
  | .storage => Storage.stubberOutline s ++ " " ++ s.client.outline
  | .custom => s.outline

/-- Runs an action and reports nothing. -/
def silently (a : Act SessionWorld Unit) : Act Bench Json := do
  Bench.onWorld a
  return .null

/-- What a step on stubbers does. -/
def StubberStep.act (b : Bench) : StubberStep → Option (Act Bench Json)
  | create id kind client useStubs => do
    let c ← b.clients.get? client
    return storeStubber id (kind.stubber c useStubs).toAny false
  | info stubber => do
    let o ← b.stubbers.get? stubber
    return Bench.onWorld (stubberReport o.stubber)
  | stub stubber order code => do
    let s ← b.typed? Storage.stubberKind stubber
    let st ← b.stub? order
    return silently (st.queue s code)
  | stubRaw stubber operation expected response code => do
    let s ← b.typed? customKind stubber
    return silently (s.stub operation expected response code)
  | activate stubber => do
    let o ← b.stubbers.get? stubber
    return silently o.stubber.activate
  | deactivate stubber => do
    let o ← b.stubbers.get? stubber
    return silently o.stubber.deactivate
  | checkDone stubber => do
    let o ← b.stubbers.get? stubber
    return silently o.stubber.checkDone
  | outline stubber => do
    let o ← b.stubbers.get? stubber
    match o.stubber.concrete with
    | .common s => if o.erased then none else return Bench.reporting (.string (stubberOutline s))
    | .foreign _ => none
  | recover stubber => do
    let o ← b.stubbers.get? stubber
    if o.erased then
      return do
        let _ ← storeStubber stubber o.stubber false
        return .string (KindName.ofKind o.stubber.kind).word
    else none

/-! ### Registries -/

/-- The constructors that a script can register. -/
structure ConstructorName where
  kind : KindName
  /-- The mode of the stubbers whatever is asked for. -/
  mode : Option Bool
deriving Repr, DecidableEq

/-- The constructor. -/
def ConstructorName.build (c : ConstructorName) : StubberConstructor SessionWorld :=
  .plain fun client useStubs => c.kind.stubber client (c.mode.getD useStubs)

/-- Steps on registries. -/
inductive RegistryStep where
  | create (id : Id) (builtIn : Bool)
  | copy (id registry : Id)
  | register (registry : Id) (service : String) (constructor : ConstructorName)
  | services (registry : Id)
  | outline (registry : Id)
  /-- Builds a stubber, with the built-in constructors if no registry is named. -/
  | build (id : Id) (registry : Option Id) (service : String) (client : Id) (useStubs : Bool)

/-- Puts a registry into the table. -/
def storeRegistry (id : Id) (r : Registry SessionWorld) : Act Bench Json := do
  Act.modify fun b => { b with registries := b.registries.insert id r }
  return .null

/-- The registry under a name, the built-in one without a name. -/
def Bench.registry? (b : Bench) : Option Id → Option (Registry SessionWorld)
  | none => some Registry.builtIn
  | some id => b.registries.get? id

/-- What a step on registries does. -/
def RegistryStep.act (b : Bench) : RegistryStep → Option (Act Bench Json)
  | create id builtIn =>
    some (storeRegistry id (if builtIn then Registry.builtIn else Registry.empty))
  | copy id registry => do
    let r ← b.registries.get? registry
    return storeRegistry id r
  | register registry service constructor => do
    let r ← b.registries.get? registry
    return storeRegistry registry (r.register service constructor.build)
  | services registry => do
    let r ← b.registries.get? registry
    return Bench.reporting (Json.ofTexts r.services)
  | outline registry => do
    let r ← b.registries.get? registry
    return Bench.reporting (.string r.outline)
  | build id registry service client useStubs => do
    let r ← b.registry? registry
    let c ← b.clients.get? client
    return do
      let build ← Act.ofExcept (r.constructor service)
      storeStubber id (← Bench.onWorld (build.call c useStubs)) true

end ServiceDoubles.Script
