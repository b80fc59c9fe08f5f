/-!
# ServiceDoubles.Text.Bytes

Parts of a text by the positions of their bytes in its UTF-8 form. No part begins or ends inside a
character.
-/

namespace ServiceDoubles.Text

/-- Whether byte `position` of a text lies inside a character, behind its first byte. -/
def splits (position : Nat) : List Char → Bool
  | [] => false
  | c :: rest =>
    if position = 0 then false
    else position < c.utf8Size || splits (position - c.utf8Size) rest

/-- The text behind its first `bytes` bytes. -/
def dropBytes (bytes : Nat) : List Char → List Char
  | [] => []
  | c :: rest => if bytes = 0 then c :: rest else dropBytes (bytes - c.utf8Size) rest

/-- The first `bytes` bytes of a text. -/
def takeBytes (bytes : Nat) : List Char → List Char
  | [] => []
  | c :: rest => if bytes = 0 then [] else c :: takeBytes (bytes - c.utf8Size) rest

/-- The part of a text from byte `start` on, unless that splits a character. -/
def cutFrom? (start : Nat) (text : List Char) : Option (List Char) :=
  if splits start text then none else some (dropBytes start text)

/-- The part of a text from byte `start` up to byte `stop`, unless that splits a character. -/
def cut? (start stop : Nat) (text : List Char) : Option (List Char) :=
  if splits stop text then none else (cutFrom? start text).map (takeBytes (stop - start))

end ServiceDoubles.Text
