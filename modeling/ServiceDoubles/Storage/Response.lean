import ServiceDoubles.Json.Basic
import ServiceDoubles.Digest.Sha256

/-!
# ServiceDoubles.Storage.Response

The responses of a storage service, and what clients read from them. A client takes a text that is
missing for the empty text, and skips entries of a listing that have no key.
-/

namespace ServiceDoubles.Storage

/-- The tag that identifies the content of an object: between quotes, the first 32 hexadecimal
digits of its digest. -/
def entityTag (body : String) : String :=
  String.ofList ('"' :: ((Sha256.hexDigest body.toUTF8.toList).take 32 ++ ['"']))

namespace Response

/-! ### Writing -/

/-- A bucket was created. -/
def created (bucket : String) : Json := Json.record [("Location", .string ("/" ++ bucket))]

/-- Done, with nothing to tell. -/
def done : Json := Json.record []

/-- An object was stored. -/
def stored (body : String) : Json := Json.record [("ETag", .string (entityTag body))]

/-- The content of an object, with its length in bytes. -/
def content (body : String) : Json :=
  Json.record [("Body", .string body), ("ContentLength", Json.ofNat body.utf8ByteSize)]

/-- An entry of a listing. -/
def entry (key : String) : Json := Json.record [("Key", .string key)]

/-- A listing of keys, with their number. -/
def listing (keys : List String) : Json :=
  Json.record [("Contents", .array (keys.map entry)), ("KeyCount", Json.ofNat keys.length)]

/-! ### Reading -/

/-- The tag in a response. -/
def tag (response : Json) : String := (response.field "ETag").text?.getD ""

/-- The content in a response. -/
def body (response : Json) : String := (response.field "Body").text?.getD ""

/-- The keys in a listing. -/
def keys (response : Json) : List String :=
  ((response.field "Contents").items?.getD []).filterMap fun e => (e.field "Key").text?

@[simp] theorem tag_stored (s : String) : tag (stored s) = entityTag s := rfl

theorem content_eq (s : String) :
    content s =
      .object [("Body", .string s), ("ContentLength", Json.ofNat s.utf8ByteSize)] :=
  Json.record_of_ascending <|
    List.pairwise_pair.mpr (show "Body" < "ContentLength" by decide)

theorem listing_eq (ks : List String) :
    listing ks =
      .object [("Contents", .array (ks.map entry)), ("KeyCount", Json.ofNat ks.length)] :=
  Json.record_of_ascending <| List.pairwise_pair.mpr (show "Contents" < "KeyCount" by decide)

@[simp] theorem body_content (s : String) : body (content s) = s := by rw [content_eq]; rfl

theorem key_entry (key : String) : ((entry key).field "Key").text? = some key := rfl

@[simp] theorem keys_listing (ks : List String) : keys (listing ks) = ks := by
  rw [listing_eq]
  change (ks.map entry).filterMap (fun e => (e.field "Key").text?) = ks
  induction ks with
  | nil => rfl
  | cons k ks ih =>
    rw [List.map_cons, List.filterMap_cons]
    simp only [key_entry, ih]

end Response

end ServiceDoubles.Storage
