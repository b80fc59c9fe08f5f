import ServiceDoubles.Decimal.Double
import ServiceDoubles.SortedMap

/-!
# ServiceDoubles.Json.Basic

JSON values: the parameters that clients send and the responses they get.

Design points:
- Numbers are of two sorts, integers and doubles, and numbers of different sorts are never the same:
  `1` and `1.0` differ.
- An object lists its fields by ascending key, each key once (`Json.record` keeps it so). Two
  objects have the same keys exactly when they list the same keys.
-/

namespace ServiceDoubles

/-- A number: an integer literal within 64 bits, or any other literal. -/
inductive Number where
  | integer (value : Int)
  | double (value : Double)
deriving Repr, DecidableEq

/-- A JSON value. -/
inductive Json where
  | null
  | bool (value : Bool)
  | number (value : Number)
  | string (text : String)
  | array (items : List Json)
  | object (fields : List (String × Json))
deriving Inhabited

/-- Whether two numbers are the same: integers by value, doubles by value. -/
def Number.same : Number → Number → Bool
  | .integer a, .integer b => a == b
  | .double a, .double b => a.same b
  | _, _ => false

namespace Json

mutual
/-- Whether two values are the same. It differs from equality only in the two signs of zero. -/
def same : Json → Json → Bool
  | .null, .null => true
  | .bool a, .bool b => a == b
  | .number a, .number b => a.same b
  | .string a, .string b => a == b
  | .array as, .array bs => sameItems as bs
  | .object as, .object bs => sameFields as bs
  | _, _ => false
/-- Whether two arrays have the same items in the same order. -/
def sameItems : List Json → List Json → Bool
  | [], [] => true
  | a :: as, b :: bs => same a b && sameItems as bs
  | _, _ => false
/-- Whether two objects have the same keys, with the same values. -/
def sameFields : List (String × Json) → List (String × Json) → Bool
  | [], [] => true
  | (j, a) :: as, (k, b) :: bs => j == k && same a b && sameFields as bs
  | _, _ => false
end

/-- The number of an integer. -/
def ofInt (i : Int) : Json := .number (.integer i)

/-- The number of a count. -/
def ofNat (n : Nat) : Json := ofInt n

/-- A text, or null. -/
def ofText? : Option String → Json
  | none => .null
  | some s => .string s

/-- An array of texts. -/
def ofTexts (texts : List String) : Json := .array (texts.map .string)

/-! ### Objects -/

/-- The object with these fields. Of fields with one key the last stands. -/
def record (fields : List (String × Json)) : Json :=
  .object (fields.foldl (fun sorted f => Entries.insert f.1 f.2 sorted) [])

/-- Fields that ascend already are the fields of their object. -/
theorem record_of_ascending {fields : List (String × Json)} (h : Entries.Ascending fields) :
    record fields = .object fields :=
  congrArg Json.object (@Entries.foldl_insert_of_ascending _ [] fields h)

/-- The value of `key`, if the value is an object that has it. -/
def field? (key : String) : Json → Option Json
  | .object fields => fields.lookup key
  | _ => none

/-- The value of `key`, or null. -/
def field (key : String) (j : Json) : Json := (j.field? key).getD .null

/-- The text, if the value is one. -/
def text? : Json → Option String
  | .string s => some s
  | _ => none

/-- The items, if the value is an array. -/
def items? : Json → Option (List Json)
  | .array items => some items
  | _ => none

end Json

end ServiceDoubles
