import ServiceDoubles.Text.Hex
import ServiceDoubles.Text.Markless

/-!
# ServiceDoubles.Text.Quoted

Texts between double quotes, the way reports and outlines of values show them: a quote, a backslash
and the common control characters have a letter, every other character that leaves no mark of its
own on the page is written by its code point, and all else stands for itself.
-/

namespace ServiceDoubles.Text

/-- How one character is written between quotes. -/
def quotedChar (c : Char) : List Char :=
  match c with
  | '"' => ['\\', '"']
  | '\\' => ['\\', '\\']
  | '\n' => ['\\', 'n']
  | '\r' => ['\\', 'r']
  | '\t' => ['\\', 't']
  | '\x00' => ['\\', '0']
  | c => if isMarkless c then ['\\', 'u', '\x7b'] ++ hex c.toNat ++ ['\x7d'] else [c]

/-- `s` between double quotes. -/
def quoted (s : String) : String :=
  String.ofList ('"' :: (s.toList.flatMap quotedChar ++ ['"']))

end ServiceDoubles.Text
