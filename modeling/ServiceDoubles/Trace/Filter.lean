import ServiceDoubles.Text.Bytes
import ServiceDoubles.Text.Regular
import ServiceDoubles.Trace.Event

/-!
# ServiceDoubles.Trace.Filter

Which events are logged. A filter is a list of directives, written with commas between them:
`target[span{field=value}]=level`, where each part may be left out.

Design points:
- Of the directives that concern an event the most specific one decides: the one with the longest
  target, then the one that asks for most fields. Of two that are equally specific the later one
  counts.
- A directive that names a span or the value of a field is about spans. There are none here, so it
  never decides.
- A directive without a level lets every event through, and an unknown level spoils the whole
  filter.
- Blanks around a directive move its parts, so that one of them may be cut inside a character.
-/

namespace ServiceDoubles

/-- How much is let through: events of a level and of all greater ones, or none at all. -/
abbrev Verbosity := Option Level

namespace Verbosity

/-- Whether events of the level are let through. -/
def allows (v : Verbosity) (level : Level) : Bool :=
  match v with
  | none => false
  | some least => least.weight ≤ level.weight

/-- The number that an optional plus sign and digits write. -/
def number? (s : List Char) : Option Nat :=
  let digits := if s.head? = some '+' then s.tail else s
  if digits ≠ [] ∧ digits.all Char.isDigit then
    some (digits.foldl (fun n c => n * 10 + (c.toNat - 48)) 0)
  else none

/-- The verbosity with this name or number. Names are in letters of any case. -/
def ofText? (s : List Char) : Option Verbosity :=
  match number? s with
  | some 0 => some none
  | some 1 => some (some .error)
  | some 2 => some (some .warn)
  | some 3 => some (some .info)
  | some 4 => some (some .debug)
  | some 5 => some (some .trace)
  | _ =>
    let name := (String.ofList s).toLower
    if name = "off" then some none
    else (Level.all.find? fun level => level.name == name).map some

end Verbosity

/-- Why a text writes no filter. -/
inductive FilterFlaw where
  | malformed
  /-- A part of a directive begins or ends inside a character. -/
  | split
deriving Repr, DecidableEq

/-- One directive. -/
structure Directive where
  target : Option String := none
  /-- The span that it is about. -/
  inSpan : Option String := none
  /-- The names of the fields it asks for, each with whether it asks for a value. -/
  fields : List (String × Bool) := []
  verbosity : Verbosity := some .trace
deriving Repr, DecidableEq

namespace Directive

/-! ### Reading -/

/-- Where in a directive a character stands. `start` is the byte at which the part began. -/
inductive Place where
  | opening
  | levelOrTarget (start : Nat)
  | span (start : Nat)
  | field (start : Nat)
  | afterFields
  | afterSpan
  | level (start : Nat)
deriving Repr, DecidableEq

/-- Whether a directive may begin with `c`. -/
def mayOpen (c : Char) : Bool := c == '-' || c == ':' || c == '_' || Text.isAlphanumeric c

/-- The part of `text` from byte `start` up to byte `stop`. -/
def part (text : List Char) (start stop : Nat) : Except FilterFlaw (List Char) :=
  (Text.cut? start stop text).elim (.error .split) .ok

/-- The part of `text` from byte `start` on. -/
def partFrom (text : List Char) (start : Nat) : Except FilterFlaw (List Char) :=
  (Text.cutFrom? start text).elim (.error .split) .ok

/-- The text behind a sign, if it begins with one. -/
def unsigned (s : List Char) : List Char :=
  if s.head? = some '+' || s.head? = some '-' then s.tail else s

/-- Whether a text is empty or an `e` with digits, perhaps with a sign between them. -/
def isPower : List Char → Bool
  | [] => true
  | e :: rest =>
    (e == 'e' || e == 'E') && !(unsigned rest).isEmpty && (unsigned rest).all Char.isDigit

/-- Whether a text is a number: digits, perhaps with a point among them and a power of ten behind,
or one of the words for what is no finite number. -/
def isNumber (s : List Char) : Bool :=
  let magnitude := unsigned s
  let whole := magnitude.takeWhile Char.isDigit
  let rest := magnitude.dropWhile Char.isDigit
  ["inf", "infinity", "nan"].contains (String.ofList magnitude).toLower ||
    match rest with
    | '.' :: rest =>
      let fraction := rest.takeWhile Char.isDigit
      !(whole ++ fraction).isEmpty && isPower (rest.dropWhile Char.isDigit)
    | rest => !whole.isEmpty && isPower rest

/-- Whether a field can be asked to have this value: a number, or a regular expression. -/
def isValue (s : List Char) : Bool := isNumber s || Text.Regular.isExpression s

/-- The field that a directive asks for. Its value ends at a second equals sign. -/
def fieldOf (s : List Char) : Except FilterFlaw (String × Bool) :=
  let name := String.ofList (s.takeWhile (· ≠ '='))
  match s, s.dropWhile (· ≠ '=') with
  | [], _ => .error .malformed
  | _, [] => .ok (name, false)
  | _, _ :: value =>
    if isValue (value.takeWhile (· ≠ '=')) then .ok (name, true) else .error .malformed

/-- The directive after the character `c` at byte `i` of `text`. -/
def step (text : List Char) (d : Directive × Place) (c : Char) (i : Nat) :
    Except FilterFlaw (Directive × Place) :=
  match d.2, c with
  | .opening, '[' => .ok (d.1, .span (i + 1))
  | .opening, c => if mayOpen c then .ok (d.1, .levelOrTarget i) else .error .malformed
  | .levelOrTarget start, '=' =>
    (part text start i).map fun t =>
      ({ d.1 with target := some (String.ofList t) }, .level (i + 1))
  | .levelOrTarget start, '[' =>
    (part text start i).map fun t =>
      ({ d.1 with target := some (String.ofList t) }, .span (i + 1))
  | .levelOrTarget start, _ => .ok (d.1, .levelOrTarget start)
  | .afterSpan, '=' => .ok (d.1, .level (i + 1))
  | .span start, ']' =>
    (part text start i).map fun name =>
      ({ d.1 with inSpan := some (String.ofList name) }, .afterSpan)
  -- The name of a span may be left out in front of fields.
  | .span start, '\x7b' =>
    (part text start i).map fun name =>
      ({ d.1 with inSpan := if name = [] then none else some (String.ofList name) },
        .field (i + 1))
  | .span start, _ => .ok (d.1, .span start)
  | .field start, '\x7d' =>
    (part text start i >>= fieldOf).map fun f =>
      ({ d.1 with fields := d.1.fields ++ [f] }, .afterFields)
  | .field start, _ => .ok (d.1, .field start)
  | .afterFields, ']' => .ok (d.1, .afterSpan)
  | .level start, _ => .ok (d.1, .level start)
  | _, _ => .error .malformed

/-- Reads the characters of a directive from byte `i` of `text` on. -/
def scan (text : List Char) (d : Directive × Place) :
    List Char → Nat → Except FilterFlaw (Directive × Place)
  | [], _ => .ok d
  | c :: rest, i => step text d c i >>= fun d => scan text d rest (i + c.utf8Size)

/-- The directive that is complete at the end of `text`. -/
def finish (text : List Char) : Directive × Place → Except FilterFlaw Directive
  | (d, .levelOrTarget start) =>
    -- A single word is a level if it can be one, and else a target.
    (partFrom text start).map fun word =>
      match Verbosity.ofText? word with
      | some v => { d with verbosity := v }
      | none => { d with target := some (String.ofList word) }
  | (d, .level start) =>
    partFrom text start >>= fun word =>
      match word, Verbosity.ofText? word with
      | [], _ => .ok d
      | _, some v => .ok { d with verbosity := v }
      | _, none => .error .malformed
  | (d, .afterSpan) => .ok d
  | _ => .error .malformed

/-- The directive that a text writes. Places are counted in the text without its outer blanks, but
its parts are cut from the text with them. -/
def ofText (text : List Char) : Except FilterFlaw Directive :=
  scan text ({}, .opening) (Text.trimmed text) 0 >>= finish text

/-! ### Deciding -/

/-- Whether the directive decides about events. -/
def isForEvents (d : Directive) : Bool := d.inSpan.isNone && d.fields.all fun f => !f.2

/-- Whether the directive concerns events of a target with these fields; where it is not known which
fields they have, whether it concerns any. -/
def concerns (d : Directive) (target : String) (fields : Option (List String)) : Bool :=
  (d.target.all fun t => t.toList.isPrefixOf target.toList) &&
    fields.all fun names => d.fields.all fun f => names.contains f.1

/-- The length of the target, where no target is shorter than any. -/
def targetSize (d : Directive) : Nat :=
  match d.target with
  | none => 0
  | some t => t.utf8ByteSize + 1

/-- Whether `d` comes before `e` since it is more specific. Where that leaves a choice, the greater
target and the greater names of fields come first. -/
def precedes (d e : Directive) : Bool :=
  let dt := d.target.getD ""
  let et := e.target.getD ""
  let df := d.fields.map (·.1)
  let ef := e.fields.map (·.1)
  e.targetSize < d.targetSize || (d.targetSize = e.targetSize &&
    (ef.length < df.length || (df.length = ef.length &&
      (et < dt || (dt = et && ef < df)))))

end Directive

/-- Directives, all about events. -/
structure Filter where
  directives : List Directive
deriving Repr, DecidableEq

namespace Filter

/-- The parts of a text between commas. -/
def parts : List Char → List (List Char)
  | [] => [[]]
  | c :: rest =>
    match c, parts rest with
    | ',', ps => [] :: ps
    | c, p :: ps => (c :: p) :: ps
    | c, [] => [[c]]

/-- The filter of these directives; without any it lets nothing through. -/
def ofDirectives (directives : List Directive) : Filter := ⟨directives.filter (·.isForEvents)⟩

/-- The filter that a text writes. Empty parts do not count. -/
def ofText (text : String) : Except FilterFlaw Filter :=
  (((parts text.toList).filter (· ≠ [])).mapM Directive.ofText).map ofDirectives

/-- The filter that lets a level and all greater ones through. -/
def ofLevel (level : Level) : Filter := ⟨[{ verbosity := some level }]⟩

/-- The directive that decides about events of a target with these fields. -/
def deciding (f : Filter) (target : String) (fields : Option (List String)) : Option Directive :=
  (f.directives.filter (·.concerns target fields)).foldl
    (fun best d =>
      match best with
      | none => some d
      | some b => if b.precedes d then some b else some d)
    none

/-- Whether events of a level are let through. -/
def allows (f : Filter) (level : Level) (target : String) (fields : Option (List String)) : Bool :=
  match f.deciding target fields with
  | none => false
  | some d => d.verbosity.allows level

end Filter

end ServiceDoubles
