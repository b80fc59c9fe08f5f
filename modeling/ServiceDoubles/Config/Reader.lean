import ServiceDoubles.Config.Basic
import ServiceDoubles.Fault

/-!
# ServiceDoubles.Config.Reader

Reading a configuration from its JSON form.

Design points:
- An object gives the fields by name, in any order. A field that is left out has its default, fields
  with other names are skipped, and a field that comes twice is refused where its name comes again.
- An array gives the fields in order, and may stop early.
- No value of a wrong sort ever stands for the default: it is refused.
-/

namespace ServiceDoubles.Config

open Json (Flaw)
open Json.Reader (Reading skipBlanks stringBody value colon ended refuse string boolean)

/-- The fields that were read so far. -/
structure Parts where
  useRealService : Option Bool := none
  region : Option String := none
deriving Repr, DecidableEq

/-- The configuration that has these fields and the defaults of the others. -/
def Parts.config (p : Parts) : Config :=
  { useRealService := p.useRealService.getD standard.useRealService
    region := p.region.getD standard.region }

namespace Reader

/-- The flaw of a field that comes twice. -/
def repeated (name : String) : Flaw := .mismatch ("duplicate field \x60" ++ name ++ "\x60")

/-- Reads the value of the field `name`, from its colon on. -/
def field (p : Parts) (name : String) (s : List Char) : Reading Parts :=
  if name = realServiceField then
    if p.useRealService.isSome then .error (repeated name)
    else
      match colon s with
      | .error flaw => .error flaw
      | .ok rest => (boolean rest).map fun r => ({ p with useRealService := some r.1 }, r.2)
  else if name = regionField then
    if p.region.isSome then .error (repeated name)
    else
      match colon s with
      | .error flaw => .error flaw
      | .ok rest => (string rest).map fun r => ({ p with region := some r.1 }, r.2)
  else
    match colon s with
    | .error flaw => .error flaw
    | .ok rest => (value .shape rest).map fun r => (p, r.2)

/-- Reads the fields of an object up to and with its closing brace; there is at least one. Every
field reads a character, so that as much `fuel` as there are characters suffices. -/
def fieldsWith : Nat → Parts → List Char → Reading Parts
  | 0, _, _ => .error .cutShort
  | fuel + 1, p, s =>
    match skipBlanks s with
    | '"' :: rest =>
      match stringBody .full rest with
      | .error flaw => .error flaw
      | .ok (name, rest) =>
        match field p (String.ofList name) rest with
        | .error flaw => .error flaw
        | .ok (p, rest) =>
          match skipBlanks rest with
          | ',' :: more => fieldsWith fuel p more
          | '\x7d' :: after => .ok (p, after)
          | [] => .error .cutShort
          | _ => .error .malformed
    | [] => .error .cutShort
    | _ => .error .malformed

/-- Reads an object after its opening brace. -/
def object (s : List Char) : Reading Parts :=
  match skipBlanks s with
  | '\x7d' :: after => .ok ({}, after)
  | _ => fieldsWith (s.length + 1) {} s

/-- Whether another item follows in an array, after an item unless it is the `first`; and the
characters from there on. -/
def nextItem (first : Bool) (s : List Char) : Reading Bool :=
  match skipBlanks s with
  | [] => .error .cutShort
  | ']' :: rest => .ok (false, ']' :: rest)
  | ',' :: rest =>
    if first then .ok (true, ',' :: rest)
    else
      -- A comma calls for another item.
      match skipBlanks rest with
      | [] => .error .cutShort
      | ']' :: _ => .error .malformed
      | more => .ok (true, more)
  | rest => if first then .ok (true, rest) else .error .malformed

/-- Reads the closing bracket of an array. -/
def closing (p : Parts) (s : List Char) : Reading Parts :=
  match skipBlanks s with
  | ']' :: after => .ok (p, after)
  | [] => .error .cutShort
  | _ => .error .malformed

/-- Reads an array after its opening bracket. -/
def array (s : List Char) : Reading Parts :=
  match nextItem true s with
  | .error flaw => .error flaw
  | .ok (false, rest) => closing {} rest
  | .ok (true, rest) =>
    match boolean rest with
    | .error flaw => .error flaw
    | .ok (b, rest) =>
      match nextItem false rest with
      | .error flaw => .error flaw
      | .ok (false, rest) => closing { useRealService := some b } rest
      | .ok (true, rest) =>
        match string rest with
        | .error flaw => .error flaw
        | .ok (r, rest) => closing { useRealService := some b, region := some r } rest

/-- Reads a configuration. -/
def parts (s : List Char) : Reading Parts :=
  match skipBlanks s with
  | '\x7b' :: rest => object rest
  | '[' :: rest => array rest
  | other => refuse "struct HarnessConfig" other

end Reader

/-- The configuration that a JSON text writes. -/
def ofText (text : String) : Except Fault Config :=
  match ended (Reader.parts text.toList) with
  | .ok p => .ok p.config
  | .error flaw => .error (.json flaw)

end ServiceDoubles.Config
