/-!
# ServiceDoubles.Text.Line

The first line of a text. A line ends at a line feed, and a carriage return right before the line
feed belongs to the line end.
-/

namespace ServiceDoubles.Text

/-- The characters of the first line. -/
def firstLineChars : List Char → List Char
  | [] => []
  | '\n' :: _ => []
  | '\r' :: '\n' :: _ => []
  | c :: rest => c :: firstLineChars rest

/-- The first line of `s`, without its line end. -/
def firstLine (s : String) : String := String.ofList (firstLineChars s.toList)

end ServiceDoubles.Text
