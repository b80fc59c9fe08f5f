import ServiceDoubles.Script.Stubbers
import ServiceDoubles.Script.Buckets

/-!
# ServiceDoubles.Script.Scopes

The steps of a script on scopes and their fixtures.
-/

namespace ServiceDoubles.Script

/-- Steps on scopes. -/
inductive ScopeStep where
  | create (id : Id) (config : Config) (registry : Option Id)
  /-- Makes a stubber of a kind, or of any kind, which is erased then. -/
  | makeStubber (id scope client : Id) (kind : Option KindName)
  | makeBucket (id scope stubber resource : Id) (region : Option String)
  | uniqueName (scope : Id) (beginning : String)
  | addFinalizer (scope : Id) (name : String) (behaviour : Behaviour)
  | count (scope : Id)
  | setup (scope : Id) (markers : List Marker)
  | info (scope : Id)
  | finish (scope : Id)
  | drop (scope : Id)
  | dropUnwinding (scope : Id)

/-- How the test unwinds where a script asks for it. -/
def bodyFailure : String := "test body failed"

/-- The report of a setup. -/
def setupReport (reason : Option String) : Json :=
  Json.record [("skip", .bool reason.isSome), ("reason", Json.ofText? reason)]

/-- Whether `name` is `beginning` followed by digits. -/
def isNumbered (beginning name : String) : Bool :=
  let rest := name.toList.drop beginning.length
  beginning.toList.isPrefixOf name.toList && !rest.isEmpty && rest.all Char.isDigit

/-- The report of a scope. -/
def scopeReport (s : Scope SessionWorld) : Json :=
  Json.record
    [("use_real_aws", .bool s.config.useRealService), ("default_region", .string s.config.region),
     ("use_stubs", .bool s.config.useStubs), ("services", Json.ofTexts s.registry.services),
     ("finalizers", Json.ofNat s.finalizers.length), ("debug", .string s.outline)]

/-- Takes a scope off the bench and ends it. -/
def endScope (id : Id) (a : Act SessionWorld Unit) : Act Bench Json := do
  Act.modify fun b => { b with scopes := b.scopes.erase id }
  Bench.onWorld a
  return .null

/-- What a step on scopes does. -/
def ScopeStep.act (b : Bench) : ScopeStep → Option (Act Bench Json)
  | create id config registry => do
    let r ← b.registry? registry
    return do
      Act.modify fun b => { b with scopes := b.scopes.insert id (Scope.start config r) }
      -- A scope that had the name goes away, once the new one is in its place.
      if let some old := b.scopes.get? id then Bench.onWorld old.drop
      return .null
  | makeStubber id scope client kind => do
    let s ← b.scopes.get? scope
    let c ← b.clients.get? client
    match kind with
    | none => return do
      storeStubber id (← Bench.onSetting scope s (Fixture.makeStubber c)) true
    | some k => return do
      storeStubber id (← Bench.onSetting scope s (Fixture.makeStubberOf k.kind c)) false
  | makeBucket id scope stubber resource region => do
    let s ← b.scopes.get? scope
    let st ← b.typed? Storage.stubberKind stubber
    let c ← b.resources.get? resource
    return do
      let h ← Bench.onSetting scope s (Fixture.makeBucket b.clock st c region)
      Bench.noteName h.name
      storeBucket id h
  | uniqueName scope beginning => do
    let _ ← b.scopes.get? scope
    return do
      let name ← Bench.onWorld (World.uniqueName b.clock beginning)
      Bench.noteName name
      return Json.record [("prefix_then_digits", .bool (isNumbered beginning name))]
  | addFinalizer scope name behaviour => do
    let s ← b.scopes.get? scope
    return do
      Bench.onSetting scope s
        (Setting.onScope (Scope.add ⟨name, recorded (.finalizer name) behaviour⟩))
      return Json.ofNat (s.finalizers.length + 1)
  | count scope => do
    let s ← b.scopes.get? scope
    return Bench.reporting (Json.ofNat s.finalizers.length)
  | setup scope markers => do
    let s ← b.scopes.get? scope
    return do
      return setupReport (← Marker.setup s.config markers)
  | info scope => do
    let s ← b.scopes.get? scope
    return Bench.reporting (scopeReport s)
  | finish scope => do
    let s ← b.scopes.get? scope
    return endScope scope s.finish
  | drop scope => do
    let s ← b.scopes.get? scope
    return endScope scope s.drop
  | dropUnwinding scope => do
    let s ← b.scopes.get? scope
    return endScope scope do
      s.dropUnwinding
      Act.unwind bodyFailure

end ServiceDoubles.Script
