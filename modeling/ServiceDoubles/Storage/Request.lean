import ServiceDoubles.Fault

/-!
# ServiceDoubles.Storage.Request

Requests to a storage service: what is asked of which bucket, and how a request is written as an
operation with JSON parameters.

Design points:
- `Request.params` writes a request the way clients send it, and `Action.decode` reads what arrives.
  The reader asks for no more than the service needs: it ignores other fields, takes a body that is
  no text for the empty text, and an optional field that is no text as absent.
- The bucket is read before everything else and on its own (`Request.required`), since each
  operation needs it, the unknown ones too.
-/

namespace ServiceDoubles.Storage

/-- The name of the service. -/
def serviceName : String := "s3"

/-- What is asked of a bucket. -/
inductive Action where
  /-- Create the bucket, optionally in a given location. -/
  | createBucket (location : Option String)
  /-- Tell whether the bucket exists. -/
  | headBucket
  /-- Delete the bucket, which must be empty. -/
  | deleteBucket
  /-- Store an object. -/
  | putObject (key body : String)
  /-- Fetch an object. -/
  | getObject (key : String)
  /-- List the keys, optionally only those that begin in a given way. -/
  | listObjects (beginning : Option String)
  /-- Delete an object. -/
  | deleteObject (key : String)
deriving Repr, DecidableEq

/-- The name of the operation. -/
def Action.operation : Action → String
  | createBucket _ => "CreateBucket"
  | headBucket => "HeadBucket"
  | deleteBucket => "DeleteBucket"
  | putObject .. => "PutObject"
  | getObject _ => "GetObject"
  | listObjects _ => "ListObjects"
  | deleteObject _ => "DeleteObject"

/-- The operations of the service. -/
def operations : List String :=
  ["CreateBucket", "HeadBucket", "DeleteBucket", "PutObject", "GetObject", "ListObjects",
   "DeleteObject"]

theorem Action.operation_mem (a : Action) : a.operation ∈ operations := by
  cases a <;> simp [operation, operations]

/-- A request to the service. -/
structure Request where
  bucket : String
  action : Action
deriving Repr, DecidableEq

namespace Request

/-- The name of the operation. -/
def operation (r : Request) : String := r.action.operation

/-- A field that is left out without a value. -/
def optional (key : String) (value : Option Json) : List (String × Json) :=
  value.toList.map fun v => (key, v)

/-- The parameters besides the bucket. -/
def details : Action → List (String × Json)
  | .createBucket location =>
    optional "CreateBucketConfiguration"
      (location.map fun l => Json.record [("LocationConstraint", .string l)])
  | .headBucket => []
  | .deleteBucket => []
  | .putObject key body => [("Key", .string key), ("Body", .string body)]
  | .getObject key => [("Key", .string key)]
  | .listObjects beginning => optional "Prefix" (beginning.map .string)
  | .deleteObject key => [("Key", .string key)]

/-- The parameters of the request. -/
def params (r : Request) : Json := Json.record (("Bucket", .string r.bucket) :: details r.action)

/-- The text of a field that a request must have. -/
def required (key : String) (params : Json) : Except Fault String :=
  match (params.field key).text? with
  | some s => .ok s
  | none => .error (.service "MissingParameter" ("Missing required parameter: " ++ key))

end Request

/-- What an operation with these parameters asks. -/
def Action.decode (operation : String) (params : Json) : Except Fault Action :=
  match operation with
  | "CreateBucket" =>
    .ok (.createBucket
      ((params.field "CreateBucketConfiguration").field "LocationConstraint").text?)
  | "HeadBucket" => .ok .headBucket
  | "DeleteBucket" => .ok .deleteBucket
  | "PutObject" =>
    (Request.required "Key" params).map fun key =>
      .putObject key ((params.field "Body").text?.getD "")
  | "GetObject" => (Request.required "Key" params).map .getObject
  | "ListObjects" => .ok (.listObjects (params.field "Prefix").text?)
  | "DeleteObject" => (Request.required "Key" params).map .deleteObject
  | other => .error (.unknownOperation serviceName other)

end ServiceDoubles.Storage
