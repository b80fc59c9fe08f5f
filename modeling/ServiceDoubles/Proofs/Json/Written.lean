import ServiceDoubles.Json.Printer
import ServiceDoubles.Json.Reader

/-!
# ServiceDoubles.Proofs.Json.Written

**JSON texts** by their parts: each rule of the grammar is a type, and every value of it is written
in one way (`chars`). What holds of all trees therefore holds of all texts that the grammar allows,
whatever their blanks and however their strings and numbers are spelled.

What a string stands for is a relation between its pieces and a text (`Spells`). A `\u` escape gives
a unit of UTF-16, so there are strings that stand for no text: those with half a pair.
-/

namespace ServiceDoubles.Json

/-! ### Blanks -/

/-- Blanks, perhaps none. -/
structure Blanks where
  chars : List Char
  blank : ∀ c ∈ chars, c ∈ [' ', '\t', '\n', '\r']

/-- No blanks. -/
def Blanks.none : Blanks := ⟨[], nofun⟩

/-- A part with blanks on both sides. -/
structure Padded (α : Type) where
  before : Blanks
  inner : α
  after : Blanks

/-- Characters with blanks on both sides. -/
def around (before : Blanks) (inner : List Char) (after : Blanks) : List Char :=
  before.chars ++ (inner ++ after.chars)

/-- The part without blanks. -/
def Padded.bare {α : Type} (inner : α) : Padded α := ⟨.none, inner, .none⟩

/-! ### Numbers -/

/-- Decimal digits, at least one. -/
structure Digits where
  chars : List Char
  nonempty : chars ≠ []
  digit : ∀ c ∈ chars, c.isDigit = true

/-- The power of ten of a number. -/
structure Power where
  mark : Char
  isMark : mark = 'e' ∨ mark = 'E'
  sign : List Char
  isSign : sign ∈ [[], ['+'], ['-']]
  digits : Digits

def Power.chars (p : Power) : List Char := p.mark :: (p.sign ++ p.digits.chars)

/-- A number. -/
structure Numeral where
  negative : Bool
  whole : Digits
  /-- A zero in front stands alone. -/
  leading : whole.chars.head? = some '0' → whole.chars = ['0']
  fraction : Option Digits
  power : Option Power

namespace Numeral

def fractionChars (n : Numeral) : List Char := n.fraction.elim [] fun d => '.' :: d.chars

def powerChars (n : Numeral) : List Char := n.power.elim [] Power.chars

/-- The number without its sign. -/
def unsignedChars (n : Numeral) : List Char := n.whole.chars ++ n.fractionChars ++ n.powerChars

def chars (n : Numeral) : List Char :=
  if n.negative then '-' :: n.unsignedChars else n.unsignedChars

end Numeral

/-! ### Strings -/

/-- A hexadecimal digit of either case. -/
structure HexDigit where
  value : Fin 16
  upper : Bool

def HexDigit.char (d : HexDigit) : Char :=
  if d.value < 10 then Char.ofNat (d.value + 48)
  else if d.upper then Char.ofNat (d.value + 55) else Char.ofNat (d.value + 87)

/-- The letters that stand behind a backslash, each with the character it stands for. -/
def escapes : List (Char × Char) :=
  [('"', '"'), ('\\', '\\'), ('/', '/'), ('b', '\x08'), ('f', '\x0c'), ('n', '\n'), ('r', '\r'),
    ('t', '\t')]

/-- A piece of a string. -/
inductive Piece where
  /-- A character that stands for itself. -/
  | plain (c : Char) (isPlain : c ≠ '"' ∧ c ≠ '\\' ∧ 0x20 ≤ c.toNat)
  | letter (escape : Char × Char) (isEscape : escape ∈ escapes)
  /-- A unit of UTF-16 by its four digits. -/
  | unit (a b c d : HexDigit)

def Piece.chars : Piece → List Char
  | plain c _ => [c]
  | letter e _ => ['\\', e.1]
  | unit a b c d => ['\\', 'u', a.char, b.char, c.char, d.char]

/-- A string after its opening quote. -/
def bodyChars (pieces : List Piece) : List Char := pieces.flatMap Piece.chars ++ ['"']

@[simp] theorem bodyChars_nil : bodyChars [] = ['"'] := rfl

@[simp] theorem bodyChars_cons (p : Piece) (ps : List Piece) :
    bodyChars (p :: ps) = p.chars ++ bodyChars ps := by
  simp [bodyChars]

/-- The number of four hexadecimal digits. -/
def unitOf (a b c d : HexDigit) : Nat :=
  ((a.value * 16 + b.value) * 16 + c.value) * 16 + d.value

/-- The pieces stand for these characters. A character beyond the first 65536 takes two units, of
which the first holds its upper ten bits and the second its lower ten. -/
inductive Spells : List Piece → List Char → Prop
  | nil : Spells [] []
  | plain {c : Char} {isPlain} {ps : List Piece} {cs : List Char} :
    Spells ps cs → Spells (.plain c isPlain :: ps) (c :: cs)
  | letter {e : Char × Char} {isEscape} {ps : List Piece} {cs : List Char} :
    Spells ps cs → Spells (.letter e isEscape :: ps) (e.2 :: cs)
  | unit {a b c d : HexDigit} {x : Char} {ps : List Piece} {cs : List Char} :
    x.toNat = unitOf a b c d → Spells ps cs → Spells (.unit a b c d :: ps) (x :: cs)
  | pair {a b c d e f g h : HexDigit} {high low : Nat} {x : Char} {ps : List Piece}
      {cs : List Char} :
    unitOf a b c d = 0xD800 + high → high < 0x400 → unitOf e f g h = 0xDC00 + low → low < 0x400 →
    x.toNat = 0x10000 + high * 0x400 + low → Spells ps cs →
    Spells (.unit a b c d :: .unit e f g h :: ps) (x :: cs)

/-! ### Printed strings -/

/-- A digit in lower case. -/
def HexDigit.lower (value : Fin 16) : HexDigit := ⟨value, false⟩

theorem escapedControl_ofNat : ∀ n : Fin 32,
    escapedControl (Char.ofNat n) =
      (Piece.unit (.lower 0) (.lower 0) (.lower (Fin.ofNat 16 (n / 16)))
        (.lower (Fin.ofNat 16 (n % 16)))).chars := by
  decide

theorem exists_piece_control {c : Char} (h : c.toNat < 0x20) :
    ∃ p : Piece, p.chars = escapedControl c ∧
      ∀ ps cs, Spells ps cs → Spells (p :: ps) (c :: cs) := by
  have hchars := escapedControl_ofNat ⟨c.toNat, h⟩
  simp only [c.ofNat_toNat] at hchars
  refine ⟨_, hchars.symm, fun ps cs hcs => .unit ?_ hcs⟩
  simp only [unitOf, HexDigit.lower, Fin.val_ofNat]
  omega

/-- Every character is written in a piece of a string. -/
theorem exists_piece (c : Char) :
    ∃ p : Piece, p.chars = escapedChar c ∧
      ∀ ps cs, Spells ps cs → Spells (p :: ps) (c :: cs) := by
  by_cases hletter : c ∈ ['"', '\\', '\n', '\r', '\t', '\x08', '\x0c']
  · simp only [List.mem_cons, List.not_mem_nil, or_false] at hletter
    rcases hletter with rfl | rfl | rfl | rfl | rfl | rfl | rfl
    · exact ⟨.letter ('"', '"') (by decide), rfl, fun _ _ h => .letter h⟩
    · exact ⟨.letter ('\\', '\\') (by decide), rfl, fun _ _ h => .letter h⟩
    · exact ⟨.letter ('n', '\n') (by decide), rfl, fun _ _ h => .letter h⟩
    · exact ⟨.letter ('r', '\r') (by decide), rfl, fun _ _ h => .letter h⟩
    · exact ⟨.letter ('t', '\t') (by decide), rfl, fun _ _ h => .letter h⟩
    · exact ⟨.letter ('b', '\x08') (by decide), rfl, fun _ _ h => .letter h⟩
    · exact ⟨.letter ('f', '\x0c') (by decide), rfl, fun _ _ h => .letter h⟩
  · simp only [List.mem_cons, List.not_mem_nil, or_false, not_or] at hletter
    obtain ⟨hquote, hbackslash, hn, hr, ht, hb, hf⟩ := hletter
    rw [escapedChar]
    split
    · exact exists_piece_control ‹_›
    · exact ⟨.plain c ⟨hquote, hbackslash, Nat.le_of_not_lt ‹_›⟩, rfl, fun _ _ h => .plain h⟩
    all_goals assumption

/-- What is printed of a text is a string that stands for the text. -/
theorem exists_pieces (cs : List Char) :
    ∃ ps, bodyChars ps = cs.flatMap escapedChar ++ ['"'] ∧ Spells ps cs := by
  induction cs with
  | nil => exact ⟨[], rfl, .nil⟩
  | cons c cs ih =>
      obtain ⟨p, hp, hspells⟩ := exists_piece c
      obtain ⟨ps, hps, hcs⟩ := ih
      exact ⟨p :: ps, by simp [hp, hps], hspells ps cs hcs⟩

/-! ### Values -/

/-- A value. The gap behind an opening bracket belongs to no part, since there may be none. -/
inductive Tree where
  | null
  | bool (value : Bool)
  | number (numeral : Numeral)
  | string (pieces : List Piece)
  | array (gap : Blanks) (items : List (Padded Tree))
  | object (gap : Blanks) (fields : List (Padded (List Piece) × Padded Tree))

/-- A field, when `value` is how its value is written. -/
def memberChars (key : Padded (List Piece)) (value : List Char) : List Char :=
  around key.before ('"' :: bodyChars key.inner) key.after ++ ':' :: value

mutual

def Tree.chars : Tree → List Char
  | .null => ['n', 'u', 'l', 'l']
  | .bool true => ['t', 'r', 'u', 'e']
  | .bool false => ['f', 'a', 'l', 's', 'e']
  | .number n => n.chars
  | .string pieces => '"' :: bodyChars pieces
  | .array gap items => '[' :: (gap.chars ++ Tree.itemChars items ++ [']'])
  | .object gap fields => '\x7b' :: (gap.chars ++ Tree.fieldChars fields ++ ['\x7d'])

/-- The items of an array, with commas between them. -/
def Tree.itemChars : List (Padded Tree) → List Char
  | [] => []
  | [⟨before, item, after⟩] => around before item.chars after
  | ⟨before, item, after⟩ :: more => around before item.chars after ++ ',' :: Tree.itemChars more

/-- The fields of an object, with commas between them. -/
def Tree.fieldChars : List (Padded (List Piece) × Padded Tree) → List Char
  | [] => []
  | [(key, ⟨before, value, after⟩)] => memberChars key (around before value.chars after)
  | (key, ⟨before, value, after⟩) :: more =>
    memberChars key (around before value.chars after) ++ ',' :: Tree.fieldChars more

end

/-- A value with the blanks on both sides. -/
def Padded.chars (x : Padded Tree) : List Char := around x.before x.inner.chars x.after

@[simp] theorem Tree.itemChars_singleton (x : Padded Tree) : Tree.itemChars [x] = x.chars := rfl

@[simp] theorem Tree.itemChars_cons_cons (x y : Padded Tree) (more : List (Padded Tree)) :
    Tree.itemChars (x :: y :: more) = x.chars ++ ',' :: Tree.itemChars (y :: more) := rfl

@[simp] theorem Tree.fieldChars_singleton (f : Padded (List Piece) × Padded Tree) :
    Tree.fieldChars [f] = memberChars f.1 f.2.chars := rfl

@[simp] theorem Tree.fieldChars_cons_cons (f g : Padded (List Piece) × Padded Tree)
    (more : List (Padded (List Piece) × Padded Tree)) :
    Tree.fieldChars (f :: g :: more) =
      memberChars f.1 f.2.chars ++ ',' :: Tree.fieldChars (g :: more) := rfl

theorem Padded.chars_append (x : Padded Tree) (s : List Char) :
    x.chars ++ s = x.before.chars ++ (x.inner.chars ++ (x.after.chars ++ s)) := by
  simp [Padded.chars, around]

theorem memberChars_append (key : Padded (List Piece)) (value s : List Char) :
    memberChars key value ++ s =
      key.before.chars ++
        '"' :: (bodyChars key.inner ++ (key.after.chars ++ ':' :: (value ++ s))) := by
  simp [memberChars, around]

/-- A field whose name is a text. -/
structure Field where
  key : Padded (List Piece)
  name : String
  spells : Spells key.inner name.toList
  value : Padded Tree

def Field.written (f : Field) : Padded (List Piece) × Padded Tree := (f.key, f.value)

/-- The text of an object with these members, of which some may have a name that is no text. -/
def membersText (before gap : Blanks) (members : List (Padded (List Piece) × Padded Tree))
    (after : Blanks) : String :=
  String.ofList (Padded.chars ⟨before, .object gap members, after⟩)

/-- The text of an object with these fields. -/
def objectText (before gap : Blanks) (fields : List Field) (after : Blanks) : String :=
  membersText before gap (fields.map Field.written) after

/-- The tree writes a string that stands for this text. -/
def Tree.IsText (t : Tree) (s : String) : Prop := ∃ ps, t = .string ps ∧ Spells ps s.toList

section

variable {P : Tree → Prop}

mutual

/-- Induction on a tree: what holds of an array or of an object may be shown from what holds of all
its parts. -/
@[elab_as_elim]
theorem Tree.induction (null : P .null) (bool : ∀ b, P (.bool b)) (number : ∀ n, P (.number n))
    (string : ∀ pieces, P (.string pieces))
    (array : ∀ gap items, (∀ x ∈ items, P x.inner) → P (.array gap items))
    (object : ∀ gap fields, (∀ f ∈ fields, P f.2.inner) → P (.object gap fields)) : ∀ t, P t
  | .null => null
  | .bool b => bool b
  | .number n => number n
  | .string pieces => string pieces
  | .array gap items =>
    array gap items (Tree.induction_items null bool number string array object items)
  | .object gap fields =>
    object gap fields (Tree.induction_fields null bool number string array object fields)

theorem Tree.induction_items (null : P .null) (bool : ∀ b, P (.bool b))
    (number : ∀ n, P (.number n)) (string : ∀ pieces, P (.string pieces))
    (array : ∀ gap items, (∀ x ∈ items, P x.inner) → P (.array gap items))
    (object : ∀ gap fields, (∀ f ∈ fields, P f.2.inner) → P (.object gap fields)) :
    ∀ items : List (Padded Tree), ∀ x ∈ items, P x.inner
  | [] => List.forall_mem_nil _
  | ⟨_, item, _⟩ :: more => List.forall_mem_cons.mpr
    ⟨Tree.induction null bool number string array object item,
      Tree.induction_items null bool number string array object more⟩

theorem Tree.induction_fields (null : P .null) (bool : ∀ b, P (.bool b))
    (number : ∀ n, P (.number n)) (string : ∀ pieces, P (.string pieces))
    (array : ∀ gap items, (∀ x ∈ items, P x.inner) → P (.array gap items))
    (object : ∀ gap fields, (∀ f ∈ fields, P f.2.inner) → P (.object gap fields)) :
    ∀ fields : List (Padded (List Piece) × Padded Tree), ∀ f ∈ fields, P f.2.inner
  | [] => List.forall_mem_nil _
  | (_, ⟨_, value, _⟩) :: more => List.forall_mem_cons.mpr
    ⟨Tree.induction null bool number string array object value,
      Tree.induction_fields null bool number string array object more⟩

end

end

end ServiceDoubles.Json
