import ServiceDoubles.World
import ServiceDoubles.Storage.Request
import ServiceDoubles.Storage.Response

/-!
# ServiceDoubles.Storage.Store

A storage service that keeps buckets and objects in memory. `Store.answer` is the service proper: it
gives the response with the store after it, or the fault, and a fault leaves the store as it was.
`Store.call` is the service as a client reaches it, by an operation and parameters.
-/

namespace ServiceDoubles.Storage

/-- A bucket: the location it was created with, and its objects by key. -/
structure Bucket where
  location : Option String
  objects : SortedMap String

/-- The buckets by name. -/
structure Store where
  buckets : SortedMap Bucket

namespace Store

/-- The store without buckets. -/
def empty : Store := ⟨SortedMap.empty⟩

instance : Inhabited Store := ⟨empty⟩

/-- The names of the buckets, ascending. -/
def names (s : Store) : List String := s.buckets.keys

/-- The location that a bucket was created with. -/
def location? (s : Store) (bucket : String) : Option String :=
  (s.buckets.get? bucket).bind (·.location)

/-- The keys of a bucket that begin in the given way, ascending. -/
def keysFrom (b : Bucket) (beginning : Option String) : List String :=
  b.objects.keys.filter fun key => (beginning.getD "").toList.isPrefixOf key.toList

/-- The fault of a bucket that does not exist. -/
def noBucket (bucket : String) : Fault :=
  .service "NoSuchBucket" ("The specified bucket does not exist: " ++ bucket)

/-- The response to a request, with the store after it. -/
def answer (s : Store) (r : Request) : Except Fault (Json × Store) :=
  match r.action, s.buckets.get? r.bucket with
  | .createBucket location, none =>
    .ok (Response.created r.bucket, ⟨s.buckets.insert r.bucket ⟨location, SortedMap.empty⟩⟩)
  | .createBucket _, some _ =>
    .error (.service "BucketAlreadyOwnedByYou" ("Bucket already exists: " ++ r.bucket))
  | .headBucket, some _ => .ok (Response.done, s)
  | .headBucket, none => .error (.service "NotFound" "Not Found")
  | .deleteBucket, some b =>
    if b.objects.isEmpty then .ok (Response.done, ⟨s.buckets.erase r.bucket⟩)
    else
      .error (.service "BucketNotEmpty"
        ("The bucket you tried to delete is not empty: " ++ r.bucket))
  | .putObject key body, some b =>
    .ok (Response.stored body,
      ⟨s.buckets.insert r.bucket { b with objects := b.objects.insert key body }⟩)
  | .getObject key, some b =>
    match b.objects.get? key with
    | some body => .ok (Response.content body, s)
    | none => .error (.service "NoSuchKey" "The specified key does not exist.")
  | .listObjects beginning, some b => .ok (Response.listing (keysFrom b beginning), s)
  | .deleteObject key, some b =>
    .ok (Response.done, ⟨s.buckets.insert r.bucket { b with objects := b.objects.erase key }⟩)
  | _, none => .error (noBucket r.bucket)

/-- Answers a request. -/
def perform (r : Request) : Act Store Json := fun s =>
  match s.answer r with
  | .ok (response, after) => ⟨.ok response, after, []⟩
  | .error cause => ⟨.fault cause, s, []⟩

/-- The place that events of a store name. -/
def target : String := "stubkit::s3"

/-- The event of a call. -/
def callEvent (operation bucket : String) : Event :=
  ⟨.debug, target, "In-memory S3 call",
    [("operation", .plain operation), ("bucket", .plain bucket)]⟩

/-- Answers a call of an operation. -/
def call (operation : String) (params : Json) : Act Store Json := do
  -- The bucket is asked for first, also by operations that do not exist.
  let bucket ← Act.ofExcept (Request.required "Bucket" params)
  Act.report (callEvent operation bucket)
  let action ← Act.ofExcept (Action.decode operation params)
  perform ⟨bucket, action⟩

instance : Service Store := ⟨call⟩

end Store

end ServiceDoubles.Storage
