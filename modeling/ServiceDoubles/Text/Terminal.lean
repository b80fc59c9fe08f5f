/-!
# ServiceDoubles.Text.Terminal

What a terminal shows of a text. Controls and control sequences say how the text is to look and are
not shown themselves; the controls that only space the text out stay.

Design points:
- A control sequence begins with an escape. The characters behind it tell of which sort it is and
  where it ends, and a new escape ends it in any case.
- Terminals read bytes. A character beyond ASCII is shown outside of sequences and skipped inside,
  but one of its bytes may be the one that ends a control text.
-/

namespace ServiceDoubles.Text.Terminal

/-- Where in a text a character stands. -/
inductive Place where
  /-- Outside of control sequences. -/
  | outside
  /-- Right behind an escape. -/
  | escape
  /-- Behind an escape and a character that calls for another. -/
  | escapeTail
  /-- In a command with parameters, up to its last letter. -/
  | command
  /-- In the head of a control text for the device: at its start, -/
  | deviceStart
  /-- in its parameters, -/
  | deviceParameters
  /-- and behind them. -/
  | deviceTail
  /-- In a control text, up to its terminator. -/
  | controlText
  /-- In a setting such as the title, up to a bell. -/
  | setting
deriving Repr, DecidableEq

/-- Whether `c` is a control that spaces the text out. -/
def isSpacing (c : Char) : Bool := c == '\t' || c == '\n' || c == '\x0c' || c == '\r'

/-- Whether `c` is shown outside of control sequences. -/
def isShown (c : Char) : Bool := isSpacing c || (0x20 ≤ c.toNat && c.toNat ≠ 0x7F)

/-- Whether `c` lies between two characters. -/
def within (low high c : Char) : Bool := low ≤ c && c ≤ high

/-- Whether `c` is spelled with the byte that ends a control text. -/
def hasTerminator (c : Char) : Bool := (String.singleton c).toUTF8.toList.contains 0x9C

/-- The place behind an escape and `c`. -/
def behindEscape (c : Char) : Place :=
  if within ' ' '/' c then .escapeTail
  else if c = '[' then .command
  else if c = ']' then .setting
  else if c = 'P' then .deviceStart
  else if c = 'X' || c = '^' || c = '_' then .controlText
  else if within '0' '~' c then .outside
  else .escape

/-- The place behind `c`, in a sequence that neither an escape nor a cancel ends. -/
def behind (c : Char) : Place → Place
  | .outside => .outside
  | .escape => behindEscape c
  | .escapeTail => if within '0' '~' c then .outside else .escapeTail
  | .command => if within '@' '~' c then .outside else .command
  | .deviceStart =>
    if within ' ' '/' c then .deviceTail
    else if within '0' '?' c then .deviceParameters
    else if within '@' '~' c then .controlText
    else .deviceStart
  | .deviceParameters =>
    if within ' ' '/' c then .deviceTail
    else if within '<' '~' c then .controlText
    else .deviceParameters
  | .deviceTail => if within '0' '~' c then .controlText else .deviceTail
  | .controlText => if hasTerminator c then .outside else .controlText
  | .setting => if c = '\x07' then .outside else .setting

/-- Whether a control that stands in a sequence is carried out at once. -/
def Place.obeys : Place → Bool
  | .outside | .escape | .escapeTail | .command => true
  | _ => false

/-- The place behind `c`, and whether `c` is shown. A control that spaces the text out ends a
sequence where it is carried out. -/
def step (place : Place) (c : Char) : Place × Bool :=
  if c = '\x1b' then (.escape, false)
  else if c = '\x18' || c = '\x1a' then (.outside, false)
  else if place.obeys && isSpacing c then (.outside, true)
  else (behind c place, place = .outside && isShown c)

/-- The characters that are shown of a text from a place on. -/
def shownFrom (place : Place) : List Char → List Char
  | [] => []
  | c :: rest =>
    let after := step place c
    if after.2 then c :: shownFrom after.1 rest else shownFrom after.1 rest

/-- What a terminal shows of a text. -/
def shown (text : String) : String := String.ofList (shownFrom .outside text.toList)

end ServiceDoubles.Text.Terminal
