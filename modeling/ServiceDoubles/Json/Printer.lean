import ServiceDoubles.Json.Basic
import ServiceDoubles.Decimal.Notation
import ServiceDoubles.Text.Outline

/-!
# ServiceDoubles.Json.Printer

Two texts of a JSON value: the compact JSON text, without blanks and with only quotes, backslashes
and controls escaped, and the outline that names the sort of every part.
-/

namespace ServiceDoubles

/-- The text of an integer. -/
def intText (i : Int) : String :=
  String.ofList (if i < 0 then '-' :: Nat.toDigits 10 i.natAbs else Nat.toDigits 10 i.natAbs)

/-- The text of a number. -/
def Number.text : Number → String
  | .integer i => intText i
  | .double d => d.text

namespace Json

/-- A control character without a letter of its own: four hexadecimal digits. -/
def escapedControl (c : Char) : List Char :=
  let digits := Nat.toDigits 16 c.toNat
  ['\\', 'u'] ++ List.replicate (4 - digits.length) '0' ++ digits

/-- How one character is written inside a JSON string. -/
def escapedChar (c : Char) : List Char :=
  match c with
  | '"' => ['\\', '"']
  | '\\' => ['\\', '\\']
  | '\n' => ['\\', 'n']
  | '\r' => ['\\', 'r']
  | '\t' => ['\\', 't']
  | '\x08' => ['\\', 'b']
  | '\x0c' => ['\\', 'f']
  | c => if c.toNat < 0x20 then escapedControl c else [c]

/-- A JSON string. -/
def stringChars (s : String) : List Char :=
  '"' :: (s.toList.flatMap escapedChar ++ ['"'])

mutual
/-- The compact text of a value. -/
def chars : Json → List Char
  | .null => ['n', 'u', 'l', 'l']
  | .bool true => ['t', 'r', 'u', 'e']
  | .bool false => ['f', 'a', 'l', 's', 'e']
  | .number n => n.text.toList
  | .string s => stringChars s
  | .array items => '[' :: (itemChars items ++ [']'])
  | .object fields => '\x7b' :: (fieldChars fields ++ ['\x7d'])
/-- The items of an array, with commas between them. -/
def itemChars : List Json → List Char
  | [] => []
  | [item] => chars item
  | item :: more => chars item ++ ',' :: itemChars more
/-- The fields of an object, with commas between them. -/
def fieldChars : List (String × Json) → List Char
  | [] => []
  | [(key, value)] => stringChars key ++ ':' :: chars value
  | (key, value) :: more => stringChars key ++ ':' :: (chars value ++ ',' :: fieldChars more)
end

/-- The compact text of a value. -/
def text (j : Json) : String := String.ofList j.chars

open Text (quoted)

mutual
/-- The outline of a value. -/
def outline : Json → String
  | .null => "Null"
  | .bool b => Text.Outline.tagged "Bool" (Text.Outline.bool b)
  | .number n => Text.Outline.tagged "Number" n.text
  | .string s => Text.Outline.tagged "String" (quoted s)
  | .array items => "Array " ++ Text.Outline.list (itemOutlines items)
  | .object fields => "Object \x7b" ++ ", ".intercalate (fieldOutlines fields) ++ "\x7d"
/-- The outlines of the items of an array. -/
def itemOutlines : List Json → List String
  | [] => []
  | item :: more => outline item :: itemOutlines more
/-- The fields of an object, each as its quoted key and the outline of its value. -/
def fieldOutlines : List (String × Json) → List String
  | [] => []
  | (key, value) :: more => (quoted key ++ ": " ++ outline value) :: fieldOutlines more
end

end Json

end ServiceDoubles
