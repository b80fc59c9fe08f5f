import ServiceDoubles.Text.Alphanumeric
import ServiceDoubles.Text.Blank
import ServiceDoubles.Text.Hex

/-!
# ServiceDoubles.Text.Regular

Which texts are regular expressions. An expression is read from left to right, with the groups that
are open on a stack.

Design points:
- The texts come from places that braces and commas end, so that nothing in braces is ever complete:
  an opening brace counts as an error, except in a class or behind a backslash.
- There are no tables of cases, properties or word characters beyond ASCII. What needs one is
  refused unless the expression is about bytes, and then all that could match a part of a character
  is refused.
- An expression may be nested 250 deep. Groups, repetitions, alternatives, sequences and classes
  each add to the depth of what they hold.
-/

namespace ServiceDoubles.Text.Regular

/-- What is in force at a place of an expression. -/
structure Modes where
  ignoresCase : Bool := false
  /-- The expression is about characters, not about bytes. -/
  unicode : Bool := true
  /-- Blanks and comments are skipped. -/
  spaced : Bool := false
deriving Repr, DecidableEq

/-- The characters after blanks and comments. A comment ends with its line. -/
def skipFrom (inComment : Bool) : List Char → List Char
  | [] => []
  | c :: rest =>
    if inComment then skipFrom (c ≠ '\n') rest
    else if isBlank c then skipFrom false rest
    else if c = '#' then skipFrom true rest
    else c :: rest

/-- The characters after what the modes let skip. -/
def Modes.skip (m : Modes) (s : List Char) : List Char := if m.spaced then skipFrom false s else s

/-- The character by which a dash in a class tells whether it makes a range. Unlike `skip` it looks
into a comment. -/
def Modes.peek (m : Modes) (s : List Char) : Option Char :=
  if m.spaced then
    match s.dropWhile isBlank with
    | '#' :: comment => (comment.dropWhile isBlank).head?
    | s => s.head?
  else s.head?

/-- The letters that stand for modes. -/
def modeLetters : List Char := ['i', 'm', 's', 'U', 'u', 'R', 'x']

/-- The modes after letters that switch modes on, and off behind a dash. No letter may come
twice. -/
def Modes.change (m : Modes) (letters : List Char) : Option Modes :=
  let on := letters.takeWhile (· ≠ '-')
  let off := letters.dropWhile (· ≠ '-')
  let switched (c : Char) (old : Bool) := on.contains c || (old && !off.contains c)
  if letters.all (fun c => modeLetters.contains c || c == '-') && letters.Nodup
      && letters.getLast? ≠ some '-' then
    some ⟨switched 'i' m.ignoresCase, switched 'u' m.unicode, switched 'x' m.spaced⟩
  else none

/-! ### Atoms -/

/-- A part of an expression that has no parts. -/
inductive Atom where
  /-- A character; `byCode` if it is written by the code of a byte. -/
  | character (c : Char) (byCode : Bool)
  /-- Any character. -/
  | any
  /-- A class that is written as one letter. -/
  | shorthand (negated : Bool)
  /-- A place at the edge of a word, or away from it. -/
  | wordEdge
  /-- A place at the edge of a line or of the text. -/
  | edge
deriving Repr, DecidableEq

/-- Whether an atom is allowed. -/
def Modes.admits (m : Modes) : Atom → Bool
  | .character c byCode => if m.unicode then !m.ignoresCase else !byCode || c.toNat < 0x80
  | .any => m.unicode
  | .shorthand negated => !m.unicode && !negated
  | .wordEdge => !m.unicode
  | .edge => true

/-- Whether an atom is allowed in a class. -/
def Modes.admitsInClass (m : Modes) : Atom → Bool
  | .character c _ => if m.unicode then !m.ignoresCase else c.toNat < 0x80
  | .shorthand negated => !m.unicode && !negated
  | _ => false

/-- Whether a class that is written by its name is allowed. -/
def Modes.admitsNamed (m : Modes) (negated : Bool) : Bool :=
  if m.unicode then !m.ignoresCase else !negated

/-- The characters after the opening bracket of a class and the sign that negates it. -/
def Modes.enterClass (m : Modes) (s : List Char) : Option (List Char) :=
  let inner := m.skip s
  if inner.head? = some '^' then if m.unicode then some inner.tail else none else some inner

/-- The value of `value` followed by as many hexadecimal digits as `count` says. -/
def hexValue (m : Modes) : Nat → Nat → List Char → Option (Nat × List Char)
  | 0, value, s => some (value, s)
  | _ + 1, _, [] => none
  | count + 1, value, c :: rest =>
    (hexDigit? c).bind fun digit => hexValue m count (value * 16 + digit) (m.skip rest)

/-- The character that is written by its code, in as many digits as `count` says. -/
def coded (m : Modes) (count : Nat) (s : List Char) : Option (Atom × List Char) :=
  (hexValue m count 0 (m.skip s)).bind fun p =>
    if p.1.isValidChar then some (.character (Char.ofNat p.1) (count = 2), p.2) else none

/-- The controls that a backslash and a letter write. -/
def controls : List (Char × Char) :=
  [('a', '\x07'), ('f', '\x0c'), ('t', '\t'), ('n', '\n'), ('r', '\r'), ('v', '\x0b')]

/-- What a backslash and the characters after it write. -/
def escaped (m : Modes) : List Char → Option (Atom × List Char)
  | [] => none
  | 'x' :: rest => coded m 2 rest
  | 'u' :: rest => coded m 4 rest
  | 'U' :: rest => coded m 8 rest
  | c :: rest =>
    if let some control := controls.lookup c then some (.character control false, rest)
    else if ['d', 's', 'w'].contains c then some (.shorthand false, rest)
    else if ['D', 'S', 'W'].contains c then some (.shorthand true, rest)
    else if ['A', 'z'].contains c then some (.edge, rest)
    else if ['b', 'B', '<', '>'].contains c then some (.wordEdge, rest)
    else if c.isAlphanum || 0x80 ≤ c.toNat then none
    else some (.character c false, rest)

/-! ### Classes -/

/-- The names of classes of ASCII characters. -/
def classNames : List String :=
  ["alnum", "alpha", "ascii", "blank", "cntrl", "digit", "graph", "lower", "print", "punct",
    "space", "upper", "word", "xdigit"]

/-- A class by name, after its opening bracket: whether it is negated, and the characters
after it. -/
def named? : List Char → Option (Bool × List Char)
  | ':' :: rest =>
    let negated := rest.head? = some '^'
    let rest := if negated then rest.tail else rest
    match rest.dropWhile (· ≠ ':') with
    | ':' :: ']' :: after =>
      if classNames.contains (String.ofList (rest.takeWhile (· ≠ ':'))) then some (negated, after)
      else none
    | _ => none
  | _ => none

/-- The greatest of some depths. -/
def deepest (depths : List Nat) : Nat := depths.foldl max 0

/-- The depth of parts side by side: a single one stands for itself. -/
def together : List Nat → Nat
  | [] => 0
  | [depth] => depth
  | depths => 1 + deepest depths

/-- An open class. -/
structure ClassLevel where
  /-- The depth of what stands left of an operator. -/
  left : Option Nat := none
  /-- The depths of the items, the last one first. -/
  items : List Nat := []
  /-- Dashes, and a bracket in the first place, still stand for themselves. -/
  opening : Bool := true
deriving Repr, DecidableEq

namespace ClassLevel

/-- The class with one more item. -/
def push (l : ClassLevel) (depth : Nat) : ClassLevel := { l with items := depth :: l.items }

/-- The depth of what the class holds. -/
def depth (l : ClassLevel) : Nat :=
  match l.left with
  | none => together l.items
  | some left => 1 + max left (together l.items)

/-- The class after an operator. -/
def operator (l : ClassLevel) : ClassLevel :=
  { left := some l.depth, items := [], opening := false }

end ClassLevel

/-- A character or a shorthand in a class. -/
def classAtom (m : Modes) : List Char → Option (Atom × List Char)
  | [] => none
  | '\\' :: rest => escaped m rest
  | c :: rest => some (.character c false, rest)

/-- Reads an item of a class, or a range of characters, and gives the characters after it. -/
def classItem (m : Modes) (s : List Char) : Option (List Char) := do
  let (first, rest) ← classAtom m s
  let rest := m.skip rest
  let next := m.peek rest.tail
  -- A dash makes a range unless it comes last or is half of an operator.
  if rest.head? = some '-' && next ≠ some ']' && next ≠ some '-' then
    let (second, after) ← classAtom m (m.skip rest.tail)
    match first, second with
    | .character low _, .character high _ =>
      if low ≤ high && m.admitsInClass first && m.admitsInClass second then some after else none
    | _, _ => none
  else if m.admitsInClass first then some rest
  else none

/-- Reads a class from inside its brackets on, with the classes around it in `outer`, and gives the
depth of the outermost with the characters after it. Every step reads a character. -/
def classFrom (m : Modes) :
    Nat → ClassLevel → List ClassLevel → List Char → Option (Nat × List Char)
  | 0, _, _, _ => none
  | fuel + 1, l, outer, s =>
    match m.skip s with
    | [] => none
    | c :: rest =>
      if l.opening && c = '-' then
        if m.admitsInClass (.character c false) then classFrom m fuel (l.push 0) outer rest
        else none
      else if l.opening && l.items.isEmpty && c = ']' then
        if m.admitsInClass (.character c false) then
          classFrom m fuel { l.push 0 with opening := false } outer rest
        else none
      else
        let l := { l with opening := false }
        match c, rest with
        | '[', _ =>
          match named? rest with
          | some (negated, after) =>
            if m.admitsNamed negated then classFrom m fuel (l.push 0) outer after else none
          | none => (m.enterClass rest).bind fun inner => classFrom m fuel {} (l :: outer) inner
        | ']', _ =>
          match outer with
          | [] => some (1 + l.depth, rest)
          | around :: outer => classFrom m fuel (around.push (1 + l.depth)) outer rest
        | '&', '&' :: after => classFrom m fuel l.operator outer after
        | '-', '-' :: after => classFrom m fuel l.operator outer after
        | '~', '~' :: after => classFrom m fuel l.operator outer after
        | _, _ =>
          (classItem m (c :: rest)).bind fun after =>
            classFrom m fuel (l.push 0) outer after

/-- Reads a class after its opening bracket. -/
def bracketed (m : Modes) (s : List Char) : Option (Nat × List Char) :=
  (m.enterClass s).bind fun inner => classFrom m (s.length + 1) {} [] inner

/-! ### Expressions -/

/-- A part of a sequence. A change of modes is one too, but nothing that can be repeated. -/
structure Item where
  depth : Nat
  isRepeatable : Bool
deriving Repr, DecidableEq

/-- An open group, or the whole expression. -/
structure Level where
  /-- The modes that were in force before the group. -/
  modes : Modes := {}
  /-- The depth of the alternatives that are complete, if there are any. -/
  finished : Option Nat := none
  /-- The items of the alternative that is being read, the last one first. -/
  items : List Item := []
deriving Repr, DecidableEq

namespace Level

/-- The depth of the alternative that is being read. -/
def alternative (l : Level) : Nat := together (l.items.map (·.depth))

/-- The depth of what the group holds. -/
def depth (l : Level) : Nat :=
  match l.finished with
  | none => l.alternative
  | some d => 1 + max d l.alternative

/-- The group with one more item. -/
def push (l : Level) (i : Item) : Level := { l with items := i :: l.items }

end Level

/-- How far an expression was read. -/
structure Progress where
  modes : Modes := {}
  level : Level := {}
  /-- The groups around the one that is being read, the innermost first. -/
  outer : List Level := []
  names : List (List Char) := []
deriving Repr, DecidableEq

namespace Progress

/-- After an item that has no parts. -/
def push (p : Progress) (depth : Nat) : Progress :=
  { p with level := p.level.push ⟨depth, true⟩ }

/-- After an atom. -/
def atom (p : Progress) (a : Atom) : Option Progress :=
  if p.modes.admits a then some (p.push 0) else none

/-- After the opening of a group with these modes. -/
def enter (p : Progress) (modes : Modes) : Progress :=
  { p with modes, level := { modes := p.modes }, outer := p.level :: p.outer }

/-- After the end of a group. -/
def leave (p : Progress) : Option Progress :=
  match p.outer with
  | [] => none
  | around :: outer =>
    some { p with modes := p.level.modes, level := around.push ⟨1 + p.level.depth, true⟩, outer }

/-- After a bar, which ends an alternative. -/
def alternate (p : Progress) : Progress :=
  let finished := max (p.level.finished.getD 0) p.level.alternative
  { p with level := { p.level with finished := some finished, items := [] } }

/-- After a sign that repeats the last item. -/
def iterate (p : Progress) : Option Progress :=
  match p.level.items with
  | ⟨depth, true⟩ :: items =>
    some { p with level := { p.level with items := ⟨1 + depth, true⟩ :: items } }
  | _ => none

/-- Whether a name for a group may hold `c`, in the first place or after it. -/
def mayName (first : Bool) (c : Char) : Bool :=
  if first then c == '_' || isLetter c
  else c == '_' || c == '.' || c == '[' || c == ']' || isAlphanumeric c

/-- Opens a group with a name, from the name on. -/
def enterNamed (p : Progress) (s : List Char) : Option (Progress × List Char) :=
  let name := s.takeWhile (· ≠ '>')
  match name, s.dropWhile (· ≠ '>') with
  | c :: more, '>' :: rest =>
    if mayName true c && more.all (mayName false) && !p.names.contains name then
      some ({ p.enter p.modes with names := name :: p.names }, rest)
    else none
  | _, _ => none

/-- Changes modes, for a group or for what is left of the one that is being read. -/
def enterModes (p : Progress) (s : List Char) : Option (Progress × List Char) :=
  let letters := s.takeWhile fun c => c ≠ ':' && c ≠ ')'
  (p.modes.change letters).bind fun modes =>
    match s.drop letters.length with
    | ':' :: rest => some (p.enter modes, rest)
    | ')' :: rest =>
      if letters.isEmpty then none
      else some ({ p with modes, level := p.level.push ⟨0, false⟩ }, rest)
    | _ => none

/-- Reads on after the opening of a group. Looking ahead or behind is not supported. -/
def group (p : Progress) : List Char → Option (Progress × List Char)
  | '?' :: '=' :: _ | '?' :: '!' :: _ | '?' :: '<' :: '=' :: _ | '?' :: '<' :: '!' :: _ => none
  | '?' :: 'P' :: '<' :: rest | '?' :: '<' :: rest => p.enterNamed rest
  | '?' :: rest => p.enterModes rest
  | s => some (p.enter p.modes, s)

/-- Reads the part of an expression that begins with `c`. -/
def step (p : Progress) (c : Char) (rest : List Char) : Option (Progress × List Char) :=
  match c with
  | '(' => p.group (p.modes.skip rest)
  | ')' => p.leave.map fun p => (p, rest)
  | '|' => some (p.alternate, rest)
  | '[' => (bracketed p.modes rest).map fun r => (p.push r.1, r.2)
  | '\x7b' => none
  | '?' | '*' | '+' =>
    p.iterate.map fun p => (p, if rest.head? = some '?' then rest.tail else rest)
  | '\\' => (escaped p.modes rest).bind fun r => (p.atom r.1).map fun p => (p, r.2)
  | '.' => (p.atom .any).map fun p => (p, rest)
  | '^' | '$' => (p.atom .edge).map fun p => (p, rest)
  | c => (p.atom (.character c false)).map fun p => (p, rest)

/-- Reads to the end of an expression. Every step reads a character, so that as much `fuel` as there
are characters, and one more, suffices. -/
def run : Nat → Progress → List Char → Option Progress
  | 0, _, _ => none
  | fuel + 1, p, s =>
    match p.modes.skip s with
    | [] => some p
    | c :: rest => (p.step c rest).bind fun r => run fuel r.1 r.2

end Progress

/-- How deep an expression may be nested. -/
def greatestDepth : Nat := 250

/-- Whether a text is a regular expression. -/
def isExpression (s : List Char) : Bool :=
  match Progress.run (s.length + 1) {} s with
  | some p => p.outer.isEmpty && p.level.depth ≤ greatestDepth
  | none => false

end ServiceDoubles.Text.Regular
