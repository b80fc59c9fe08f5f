import ServiceDoubles.Script.Calls

/-!
# ServiceDoubles.Script.Buckets

The steps of a script that use a storage service through handles.
-/

namespace ServiceDoubles.Script

/-- Steps on clients of storage services. -/
inductive ResourceStep where
  | create (id client : Id)
  /-- A client of a new service in memory. -/
  | createInMemory (id client : Id) (region : String)
  | regionOf (resource : Id)
  | createBucket (id resource : Id) (name : BucketName) (location : Option String)
  | handle (id resource : Id) (name : BucketName)

/-- Puts a client of a storage service into the table. -/
def storeResource (id : Id) (client : Client) : Act Bench Unit :=
  Act.modify fun b => { b with resources := b.resources.insert id client }

/-- Puts a handle into the table and reports its name. -/
def storeBucket (id : Id) (h : Storage.Handle) : Act Bench Json := do
  Act.modify fun b => { b with buckets := b.buckets.insert id h }
  return Json.record [("name", .string h.name)]

/-- What a step on clients of storage services does. -/
def ResourceStep.act (b : Bench) : ResourceStep → Option (Act Bench Json)
  | create id client => do
    let c ← b.clients.get? client
    return do
      storeResource id c
      return .null
  | createInMemory id client region =>
    some do
      let cell ← createBackend (.storage Storage.Store.empty)
      let c ← Bench.onWorld (Storage.client region cell)
      storeClient client c
      storeResource id c
      return .null
  | regionOf resource => do
    let c ← b.resources.get? resource
    return Bench.reporting (.string c.region)
  | createBucket id resource name location => do
    let c ← b.resources.get? resource
    let name ← b.bucketName? name
    let h : Storage.Handle := ⟨c, name⟩
    return do
      Bench.onWorld (h.create location)
      storeBucket id h
  | handle id resource name => do
    let c ← b.resources.get? resource
    let name ← b.bucketName? name
    return storeBucket id ⟨c, name⟩

/-- What is done through a handle. -/
inductive BucketAction where
  | name
  | isPresent
  | delete
  | put (key body : String)
  | get (key : String)
  | list (beginning : Option String)
  | deleteObject (key : String)
  | outline

/-- What an action through a handle does. -/
def BucketAction.act (h : Storage.Handle) : BucketAction → Act SessionWorld Json
  | name => return .string h.name
  | isPresent => return .bool (← h.isPresent)
  | delete => do
    h.delete
    return .null
  | put key body => return .string (← h.putObject key body)
  | get key => return .string (← h.getObject key)
  | list beginning => return Json.ofTexts (← h.listObjects beginning)
  | deleteObject key => do
    h.deleteObject key
    return .null
  | outline => return .string h.outline

/-- A step through a handle. -/
structure BucketStep where
  bucket : Id
  action : BucketAction

/-- What a step through a handle does. -/
def BucketStep.act (b : Bench) (s : BucketStep) : Option (Act Bench Json) := do
  let h ← b.buckets.get? s.bucket
  return Bench.onWorld (s.action.act h)

end ServiceDoubles.Script
