/-!
# ServiceDoubles.Text.Utf8

Texts that come from outside as bytes and need not be well formed. Such a text is read as a list of
*pieces*: a character, or a hole where the bytes spell none. A hole covers the longest run of bytes
that starts a character but does not finish it, or else a single byte.
-/

namespace ServiceDoubles.Text

/-- A text from outside: characters, with `none` where the bytes spell no character. -/
abbrev Raw := List (Option Char)

/-- Whether `b` continues a character. -/
def continues (b : UInt8) : Bool := 0x80 ≤ b && b ≤ 0xBF

/-- The low six bits of a continuing byte, below the value read so far. -/
def extend (value : Nat) (b : UInt8) : Nat := value * 64 + b.toNat % 64

/-- The bytes allowed second after the leading byte `b`: the bounds keep out overlong forms,
surrogates and values above the last code point. -/
def secondAllowed (b second : UInt8) : Bool :=
  if b = 0xE0 then 0xA0 ≤ second && second ≤ 0xBF
  else if b = 0xED then 0x80 ≤ second && second ≤ 0x9F
  else if b = 0xF0 then 0x90 ≤ second && second ≤ 0xBF
  else if b = 0xF4 then 0x80 ≤ second && second ≤ 0x8F
  else continues second

/-- How many bytes follow the leading byte `b`; `none` if `b` leads no character. -/
def followers (b : UInt8) : Option Nat :=
  if b < 0x80 then some 0
  else if 0xC2 ≤ b && b ≤ 0xDF then some 1
  else if 0xE0 ≤ b && b ≤ 0xEF then some 2
  else if 0xF0 ≤ b && b ≤ 0xF4 then some 3
  else none

/-- The first piece of a text that starts with `b`, and how many of the bytes `rest` it takes. -/
def firstPiece (b : UInt8) (rest : List UInt8) : Option Char × Nat :=
  match followers b, rest with
  | some 0, _ => (some (Char.ofNat b.toNat), 0)
  | some 1, c :: _ =>
    if continues c then (some (Char.ofNat (extend (b.toNat % 32) c)), 1) else (none, 0)
  | some 2, c :: d :: _ =>
    if !secondAllowed b c then (none, 0)
    else if !continues d then (none, 1)
    else (some (Char.ofNat (extend (extend (b.toNat % 16) c) d)), 2)
  -- The text ends inside the character: what there is of it is one hole.
  | some 2, [c] => (none, if secondAllowed b c then 1 else 0)
  | some 3, c :: d :: e :: _ =>
    if !secondAllowed b c then (none, 0)
    else if !continues d then (none, 1)
    else if continues e then (some (Char.ofNat (extend (extend (extend (b.toNat % 8) c) d) e)), 3)
    else (none, 2)
  | some 3, [c, d] =>
    (none, if secondAllowed b c then (if continues d then 2 else 1) else 0)
  | some 3, [c] => (none, if secondAllowed b c then 1 else 0)
  | _, _ => (none, 0)

/-- The pieces that the bytes spell. -/
def Raw.ofBytes : List UInt8 → Raw
  | [] => []
  | b :: rest => (firstPiece b rest).1 :: Raw.ofBytes (rest.drop (firstPiece b rest).2)
termination_by bytes => bytes.length
decreasing_by simp only [List.length_drop, List.length_cons]; omega

/-- A well-formed text as a text from outside. -/
def Raw.ofString (s : String) : Raw := s.toList.map some

/-- The text, if it has no hole. -/
def Raw.toString? (r : Raw) : Option String := (r.mapM id).map String.ofList

/-- The text with every hole shown as the replacement character. -/
def Raw.shown (r : Raw) : String := String.ofList (r.map (·.getD (Char.ofNat 0xFFFD)))

end ServiceDoubles.Text
