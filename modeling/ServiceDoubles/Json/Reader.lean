import ServiceDoubles.Json.Printer

/-!
# ServiceDoubles.Json.Reader

Reading JSON text, and what is wrong with a text that is refused.

Design points:
- Every reader takes the characters that are left and returns what it read with the characters after
  it.
- There are two degrees of care. A value that is *kept* is read with `Care.full`. A value that is
  only skipped is read with `Care.shape`: surrogate escapes need not pair up, a number has no range,
  and a number that stops short is malformed rather than cut short.
- A text is refused at its first flaw from the left. The flaw says whether more text could have
  mended it (`cutShort`), or not (`malformed`), or that the text is fine so far and of the wrong
  sort (`mismatch`).
-/

namespace ServiceDoubles.Json

/-- What is wrong with a text. -/
inductive Flaw where
  /-- No continuation of what was read is JSON. -/
  | malformed
  /-- The text ended where JSON has to go on. -/
  | cutShort
  /-- JSON, but not the data that was asked for. -/
  | mismatch (detail : String)
deriving Repr, DecidableEq

namespace Reader

open Text (hexDigit?)

/-- How carefully a value is read. -/
inductive Care where
  | full
  | shape
deriving Repr, DecidableEq

/-- What a reader returns: the value read and the characters after it. -/
abbrev Reading (α : Type) := Except Flaw (α × List Char)

/-- Whether `c` may stand between the parts of a JSON text. -/
def isBlank (c : Char) : Bool := c == ' ' || c == '\t' || c == '\n' || c == '\r'

/-- The characters after leading blanks. -/
def skipBlanks (s : List Char) : List Char := s.dropWhile isBlank

/-- Reads the characters `word`, one by one. -/
def word : List Char → List Char → Except Flaw (List Char)
  | [], s => .ok s
  | _ :: _, [] => .error .cutShort
  | w :: ws, c :: s => if w = c then word ws s else .error .malformed

/-! ### Strings -/

/-- The value of four hexadecimal digits. -/
def hexUnit? (a b c d : Char) : Option Nat := do
  return (((← hexDigit? a) * 16 + (← hexDigit? b)) * 16 + (← hexDigit? c)) * 16 + (← hexDigit? d)

/-- The flaw of a `\u` escape with less than four characters after it: it takes four bytes to tell
that they are no digits. -/
def shortEscape (rest : List Char) : Flaw :=
  if (String.ofList rest).utf8ByteSize < 4 then .cutShort else .malformed

/-- The character that a one-letter escape stands for. -/
def unescaped? : Char → Option Char
  | '"' => some '"'
  | '\\' => some '\\'
  | '/' => some '/'
  | 'b' => some '\x08'
  | 'f' => some '\x0c'
  | 'n' => some '\n'
  | 'r' => some '\r'
  | 't' => some '\t'
  | _ => none

/-- Whether `n` is the first half of a pair. -/
def isHighSurrogate (n : Nat) : Bool := 0xD800 ≤ n && n ≤ 0xDBFF

/-- Whether `n` is the second half of a pair. -/
def isLowSurrogate (n : Nat) : Bool := 0xDC00 ≤ n && n ≤ 0xDFFF

/-- The character of a surrogate pair. -/
def joined (high low : Nat) : Char :=
  Char.ofNat ((high - 0xD800) * 0x400 + (low - 0xDC00) + 0x10000)

/-- Puts `c` in front of what was read. -/
def consChar (c : Char) (r : Reading (List Char)) : Reading (List Char) :=
  r.map fun p => (c :: p.1, p.2)

/-- Reads the rest of a string, up to and with its closing quote. -/
def stringBody (care : Care) : List Char → Reading (List Char)
  | [] => .error .cutShort
  | '"' :: rest => .ok ([], rest)
  | '\\' :: 'u' :: a :: b :: c :: d :: rest =>
    match hexUnit? a b c d with
    | none => .error .malformed
    | some n =>
      -- Nothing of a skipped string is used, so half a pair is as good there as a whole one.
      if care = .shape then consChar (Char.ofNat n) (stringBody care rest)
      else if isLowSurrogate n then .error .malformed
      else if isHighSurrogate n then
        -- The second half has to stand right behind the first.
        match rest with
        | '\\' :: 'u' :: e :: f :: g :: h :: more =>
          match hexUnit? e f g h with
          | none => .error .malformed
          | some m =>
            if isLowSurrogate m then consChar (joined n m) (stringBody care more)
            else .error .malformed
        | '\\' :: 'u' :: more => .error (shortEscape more)
        | ['\\'] => .error .cutShort
        | [] => .error .cutShort
        | _ => .error .malformed
      else consChar (Char.ofNat n) (stringBody care rest)
  | '\\' :: 'u' :: rest => .error (shortEscape rest)
  | '\\' :: c :: rest =>
    match unescaped? c with
    | some x => consChar x (stringBody care rest)
    | none => .error .malformed
  | ['\\'] => .error .cutShort
  | c :: rest =>
    if c.toNat < 0x20 then .error .malformed else consChar c (stringBody care rest)

/-! ### Numbers -/

/-- A number as it is written: its digits before and after the point, and its power of ten. -/
structure Literal where
  whole : List Nat
  fraction : Option (List Nat)
  power : Option Int
deriving Repr, DecidableEq

/-- The value of a decimal digit. -/
def digitValue (c : Char) : Nat := c.toNat - 48

/-- The digits that `s` starts with. -/
def leadingDigits (s : List Char) : List Nat := (s.takeWhile Char.isDigit).map digitValue

/-- The characters after the digits that `s` starts with. -/
def afterDigits (s : List Char) : List Char := s.dropWhile Char.isDigit

/-- The flaw of a number that misses a digit in front of `rest`. -/
def missingDigit (care : Care) (rest : List Char) : Flaw :=
  if care = .full ∧ rest = [] then .cutShort else .malformed

/-- The natural that the digits write. -/
def ofDigits (digits : List Nat) : Nat := digits.foldl (fun n d => n * 10 + d) 0

/-- Reads the power of ten of a number, if it has one. -/
def power (care : Care) (s : List Char) : Reading (Option Int) :=
  match s with
  | [] => .ok (none, s)
  | e :: rest =>
    if e = 'e' ∨ e = 'E' then
      let negative := rest.head? = some '-'
      let digits := if rest.head? = some '-' ∨ rest.head? = some '+' then rest.tail else rest
      if leadingDigits digits = [] then .error (missingDigit care digits)
      else
        let n : Int := ofDigits (leadingDigits digits)
        .ok (some (if negative then -n else n), afterDigits digits)
    else .ok (none, s)

/-- Reads a number after its sign. A leading zero stands alone. -/
def literal (care : Care) (s : List Char) : Reading Literal :=
  let whole := leadingDigits s
  if whole = [] then .error (missingDigit care s)
  else if whole.head? = some 0 ∧ whole.length ≠ 1 then .error .malformed
  else
    match afterDigits s with
    | '.' :: rest =>
      if leadingDigits rest = [] then .error (missingDigit care rest)
      else (power care (afterDigits rest)).map fun p =>
        (⟨whole, some (leadingDigits rest), p.1⟩, p.2)
    | rest => (power care rest).map fun p => (⟨whole, none, p.1⟩, p.2)

/-- Appends digits to `n` while 64 bits hold the result. Returns it and how many digits it took. -/
def absorb (n : Nat) : List Nat → Nat × Nat
  | [] => (n, 0)
  | d :: more =>
    if n * 10 + d < Nat.pow 2 64 then
      let r := absorb (n * 10 + d) more
      (r.1, r.2 + 1)
    else (n, 0)

/-- The number that a literal writes, below zero if `negative`; `none` if it is past the greatest
double. An integer that its sort cannot hold is a double, and so is zero below zero. -/
def Literal.number? (l : Literal) (negative : Bool) : Option Number :=
  let whole := absorb 0 l.whole
  -- Digits past 64 bits keep their places but not their values.
  let dropped := l.whole.length - whole.2
  let isInteger := l.fraction = none && l.power = none && dropped = 0
  if isInteger && !negative then some (.integer whole.1)
  else if isInteger && 0 < whole.1 && whole.1 ≤ Nat.pow 2 63 then some (.integer (-(whole.1 : Int)))
  else
    let all := absorb whole.1 (l.fraction.getD [])
    let exponent := (dropped : Int) - all.2 + l.power.getD 0
    (Double.ofLiteral? all.1 exponent).map fun rank => .double ⟨negative, rank⟩

/-- Reads a number after its sign. -/
def number (care : Care) (negative : Bool) (s : List Char) : Reading Number :=
  match literal care s with
  | .error flaw => .error flaw
  | .ok (l, rest) =>
    match l.number? negative with
    | some n => .ok (n, rest)
    | none => if care = .full then .error .malformed else .ok (.integer 0, rest)

/-! ### Values -/

/-- Reads the colon after a key. -/
def colon (s : List Char) : Except Flaw (List Char) :=
  match skipBlanks s with
  | ':' :: rest => .ok rest
  | [] => .error .cutShort
  | _ => .error .malformed

mutual
/-- Reads a value. Of two steps in a row one reads a character, so that twice as much `fuel` as
there are characters, and one more, suffices. -/
def valueWith (care : Care) : Nat → List Char → Reading Json
  | 0, _ => .error .cutShort
  | fuel + 1, s =>
    match skipBlanks s with
    | [] => .error .cutShort
    | 'n' :: rest => (word ['u', 'l', 'l'] rest).map fun r => (.null, r)
    | 't' :: rest => (word ['r', 'u', 'e'] rest).map fun r => (.bool true, r)
    | 'f' :: rest => (word ['a', 'l', 's', 'e'] rest).map fun r => (.bool false, r)
    | '"' :: rest => (stringBody care rest).map fun p => (.string (String.ofList p.1), p.2)
    | '-' :: rest => (number care true rest).map fun p => (.number p.1, p.2)
    | '[' :: rest =>
      match skipBlanks rest with
      | ']' :: after => .ok (.array [], after)
      | [] => .error .cutShort
      | _ => (itemsWith care fuel rest).map fun p => (.array p.1, p.2)
    | '\x7b' :: rest =>
      match skipBlanks rest with
      | '\x7d' :: after => .ok (.object [], after)
      | _ => (fieldsWith care fuel rest).map fun p => (Json.record p.1, p.2)
    | c :: rest =>
      if c.isDigit then (number care false (c :: rest)).map fun p => (.number p.1, p.2)
      else .error .malformed
/-- Reads the items of an array up to and with its closing bracket; there is at least one. -/
def itemsWith (care : Care) : Nat → List Char → Reading (List Json)
  | 0, _ => .error .cutShort
  | fuel + 1, s =>
    match valueWith care fuel s with
    | .error flaw => .error flaw
    | .ok (item, rest) =>
      match skipBlanks rest with
      | ',' :: more => (itemsWith care fuel more).map fun p => (item :: p.1, p.2)
      | ']' :: after => .ok ([item], after)
      | [] => .error .cutShort
      | _ => .error .malformed
/-- Reads the fields of an object up to and with its closing brace; there is at least one. -/
def fieldsWith (care : Care) : Nat → List Char → Reading (List (String × Json))
  | 0, _ => .error .cutShort
  | fuel + 1, s =>
    match skipBlanks s with
    | '"' :: keyRest =>
      match stringBody care keyRest with
      | .error flaw => .error flaw
      | .ok (key, rest) =>
        match colon rest with
        | .error flaw => .error flaw
        | .ok rest =>
          match valueWith care fuel rest with
          | .error flaw => .error flaw
          | .ok (value, rest) =>
            match skipBlanks rest with
            | ',' :: more =>
              (fieldsWith care fuel more).map fun p => ((String.ofList key, value) :: p.1, p.2)
            | '\x7d' :: after => .ok ([(String.ofList key, value)], after)
            | [] => .error .cutShort
            | _ => .error .malformed
    | [] => .error .cutShort
    | _ => .error .malformed
end

/-- Reads a value with the care it needs. -/
def value (care : Care) (s : List Char) : Reading Json :=
  valueWith care (2 * s.length + 1) s

/-- Refuses anything but blanks after a value. -/
def ended {α : Type} : Reading α → Except Flaw α
  | .error flaw => .error flaw
  | .ok (a, rest) => if skipBlanks rest = [] then .ok a else .error .malformed

/-! ### Reading one sort of value -/

/-- The flaw of finding `found` where `expected` was asked for. -/
def wrongSort {α : Type} (found expected : String) : Except Flaw α :=
  .error (.mismatch ("invalid type: " ++ found ++ ", expected " ++ expected))

/-- A part of a message that is set off as written. -/
def marked (sort text : String) : String := sort ++ " \x60" ++ text ++ "\x60"

/-- How a message names a number. -/
def numberSort : Number → String
  | .integer i => marked "integer" (intText i)
  | .double d => marked "floating point" d.text

/-- Refuses the value that `s` starts with, since `expected` was asked for. An array or object is
refused at its bracket, any other value once it is read. -/
def refuse {α : Type} (expected : String) (s : List Char) : Except Flaw α :=
  match s with
  -- The bracket settles it, whatever comes after.
  | '[' :: _ => wrongSort "sequence" expected
  | '\x7b' :: _ => wrongSort "map" expected
  | _ =>
    match value .full s with
    | .error flaw => .error flaw
    | .ok (.null, _) => wrongSort "null" expected
    | .ok (.bool b, _) => wrongSort (marked "boolean" (Text.Outline.bool b)) expected
    | .ok (.number n, _) => wrongSort (numberSort n) expected
    | .ok (.string t, _) => wrongSort ("string " ++ Text.quoted t) expected
    | .ok (.array _, _) => wrongSort "sequence" expected
    | .ok (.object _, _) => wrongSort "map" expected

/-- Reads a string. -/
def string (s : List Char) : Reading String :=
  match skipBlanks s with
  | '"' :: rest => (stringBody .full rest).map fun p => (String.ofList p.1, p.2)
  | other => refuse "a string" other

/-- Reads a truth value. -/
def boolean (s : List Char) : Reading Bool :=
  match skipBlanks s with
  | 't' :: rest => (word ['r', 'u', 'e'] rest).map fun r => (true, r)
  | 'f' :: rest => (word ['a', 'l', 's', 'e'] rest).map fun r => (false, r)
  | other => refuse "a boolean" other

end Reader

/-- The value that a text writes. -/
def read (text : String) : Except Flaw Json := Reader.ended (Reader.value .full text.toList)

/-- The string that a text writes. -/
def readString (text : String) : Except Flaw String := Reader.ended (Reader.string text.toList)

end ServiceDoubles.Json
