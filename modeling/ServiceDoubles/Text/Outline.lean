import ServiceDoubles.Text.Quoted

/-!
# ServiceDoubles.Text.Outline

One-line outlines of structured values: `Name(value)` for a variant with one part, a list in square
brackets, and a record as its name with `field: value` pairs in braces, where `..` stands for the
fields that are not shown. Each function takes the outlines of the parts.
-/

namespace ServiceDoubles.Text.Outline

/-- A list of parts. -/
def list (parts : List String) : String :=
  "[" ++ ", ".intercalate parts ++ "]"

/-- A list of texts, each between quotes. -/
def texts (parts : List String) : String := list (parts.map quoted)

/-- A variant that carries one part. -/
def tagged (name part : String) : String := name ++ "(" ++ part ++ ")"

/-- An optional part. -/
def option : Option String → String
  | none => "None"
  | some part => tagged "Some" part

/-- An optional text. -/
def optionalText (text : Option String) : String := option (text.map quoted)

/-- A truth value. -/
def bool (b : Bool) : String := if b then "true" else "false"

/-- The `field: value` pairs of a record. -/
def pairs (fields : List (String × String)) : List String :=
  fields.map fun f => f.1 ++ ": " ++ f.2

/-- A record with all its fields. -/
def record (name : String) (fields : List (String × String)) : String :=
  name ++ " \x7b " ++ ", ".intercalate (pairs fields) ++ " \x7d"

/-- A record of which only some fields are shown. -/
def openRecord (name : String) (fields : List (String × String)) : String :=
  name ++ " \x7b " ++ ", ".intercalate (pairs fields ++ [".."]) ++ " \x7d"

end ServiceDoubles.Text.Outline
