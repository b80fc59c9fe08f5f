import ServiceDoubles.Json.Printer

/-!
# ServiceDoubles.Config.Basic

The configuration of a test run: whether calls reach the real service, and the region that clients
and buckets are in unless a test says otherwise.
-/

namespace ServiceDoubles

/-- A configuration. -/
structure Config where
  /-- Calls are passed through to the real service. -/
  useRealService : Bool := false
  /-- The region of clients and buckets. -/
  region : String := "us-west-2"
deriving Repr, DecidableEq

namespace Config

/-- The configuration when nothing is said: stubbing, in the default region. -/
def standard : Config := {}

instance : Inhabited Config := ⟨standard⟩

/-- The option that passes calls through to the real service. -/
def realServiceOption : String := "--use-real-aws-may-incur-charges"

/-- The environment variable of that option. -/
def realServiceVariable : String := "USE_REAL_AWS_MAY_INCUR_CHARGES"

/-- Whether stubbers queue the expected calls. -/
def useStubs (c : Config) : Bool := !c.useRealService

/-- The name of the first field in the JSON form. -/
def realServiceField : String := "use_real_aws"

/-- The name of the second field in the JSON form. -/
def regionField : String := "default_region"

/-- The JSON form, its fields in this order. -/
def text (c : Config) : String :=
  (Json.object [(realServiceField, .bool c.useRealService), (regionField, .string c.region)]).text

/-- The outline of a configuration. -/
def outline (c : Config) : String :=
  Text.Outline.record "HarnessConfig"
    [(realServiceField, Text.Outline.bool c.useRealService), (regionField, Text.quoted c.region)]

end Config

end ServiceDoubles
