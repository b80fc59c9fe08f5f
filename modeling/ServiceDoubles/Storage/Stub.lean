import ServiceDoubles.Stubber
import ServiceDoubles.Storage.Request
import ServiceDoubles.Storage.Response

/-!
# ServiceDoubles.Storage.Stub

The calls that a test can expect of a storage client. A stub is the request that is to come and what
the service is to answer; where the answer depends on the objects in the bucket, the stub carries
it.
-/

namespace ServiceDoubles.Storage

/-- An expected call. -/
inductive Stub where
  | createBucket (bucket : String) (location : Option String)
  | headBucket (bucket : String)
  | deleteBucket (bucket : String)
  | putObject (bucket key body : String)
  /-- The object holds `body`. -/
  | getObject (bucket key body : String)
  /-- The listing is `keys`. -/
  | listObjects (bucket : String) (keys : List String) (beginning : Option String)
  | deleteObject (bucket key : String)
deriving Repr, DecidableEq

namespace Stub

/-- The name under which stubs are sequenced. -/
def method : Stub → String
  | createBucket .. => "stub_create_bucket"
  | headBucket _ => "stub_head_bucket"
  | deleteBucket _ => "stub_delete_bucket"
  | putObject .. => "stub_put_object"
  | getObject .. => "stub_get_object"
  | listObjects .. => "stub_list_objects"
  | deleteObject .. => "stub_delete_object"

/-- The request that is expected. -/
def request : Stub → Request
  | createBucket bucket location => ⟨bucket, .createBucket location⟩
  | headBucket bucket => ⟨bucket, .headBucket⟩
  | deleteBucket bucket => ⟨bucket, .deleteBucket⟩
  | putObject bucket key body => ⟨bucket, .putObject key body⟩
  | getObject bucket key _ => ⟨bucket, .getObject key⟩
  | listObjects bucket _ beginning => ⟨bucket, .listObjects beginning⟩
  | deleteObject bucket key => ⟨bucket, .deleteObject key⟩

/-- The response that it gets. -/
def response : Stub → Json
  | createBucket bucket _ => Response.created bucket
  | headBucket _ => Response.done
  | deleteBucket _ => Response.done
  | putObject _ _ body => Response.stored body
  | getObject _ _ body => Response.content body
  | listObjects _ keys _ => Response.listing keys
  | deleteObject .. => Response.done

/-- Queues the expected call, which fails with `code` if there is one. -/
def queue {β υ : Type} (stub : Stub) (s : Stubber) (code : Option String) : Act (World β υ) Unit :=
  s.stub stub.request.operation (some stub.request.params) stub.response code

end Stub

/-- The kind of stubbers for storage clients. -/
def stubberKind : StubberKind := ⟨"stubkit::s3::S3Stubber"⟩

/-- A stubber for a storage client. -/
def stubber (client : Client) (useStubs : Bool) : Stubber := ⟨stubberKind, client, useStubs⟩

/-- The outline of a stubber for a storage client. -/
def stubberOutline (s : Stubber) : String :=
  Text.Outline.record "S3Stubber" [("base", s.outline)]

end ServiceDoubles.Storage
