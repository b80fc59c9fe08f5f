import ServiceDoubles.Client
import ServiceDoubles.Storage.Request
import ServiceDoubles.Storage.Response

/-!
# ServiceDoubles.Storage.Handle

How tests use a storage service: through handles to buckets, which send requests with a client and
read the responses.
-/

namespace ServiceDoubles.Storage

variable {β υ : Type}

/-- A client of a storage service. -/
def client (region : String) (backend : Nat) : Act (World β υ) Client :=
  Client.create serviceName region operations backend

/-- A handle to a bucket, which need not exist. -/
structure Handle where
  client : Client
  name : String
deriving Repr, DecidableEq

namespace Handle

variable [Service β]

/-- Sends a request about the bucket. -/
def send (h : Handle) (a : Action) : Act (World β υ) Json :=
  h.client.call a.operation (Request.params ⟨h.name, a⟩)

/-- Creates the bucket. -/
def create (h : Handle) (location : Option String) : Act (World β υ) Unit := do
  let _ ← h.send (.createBucket location)

/-- Whether a failure means that the bucket does not exist. -/
def meansAbsent (cause : Fault) : Bool := cause.hasCode "NotFound" || cause.hasCode "NoSuchBucket"

/-- Whether the bucket exists. -/
def isPresent (h : Handle) : Act (World β υ) Bool := do
  match ← Act.attempt (h.send .headBucket) with
  | .ok _ => return true
  | .error cause => if meansAbsent cause then return false else Act.fail cause

/-- Deletes the bucket. -/
def delete (h : Handle) : Act (World β υ) Unit := do
  let _ ← h.send .deleteBucket

/-- Stores an object and gives its tag. -/
def putObject (h : Handle) (key body : String) : Act (World β υ) String := do
  return Response.tag (← h.send (.putObject key body))

/-- The content of an object. -/
def getObject (h : Handle) (key : String) : Act (World β υ) String := do
  return Response.body (← h.send (.getObject key))

/-- The keys, all or only those that begin in the given way. -/
def listObjects (h : Handle) (beginning : Option String) : Act (World β υ) (List String) := do
  return Response.keys (← h.send (.listObjects beginning))

/-- Deletes an object. -/
def deleteObject (h : Handle) (key : String) : Act (World β υ) Unit := do
  let _ ← h.send (.deleteObject key)

omit [Service β] in
/-- The outline of a handle. -/
def outline (h : Handle) : String :=
  Text.Outline.record "Bucket" [("client", h.client.outline), ("name", Text.quoted h.name)]

end Handle

end ServiceDoubles.Storage
