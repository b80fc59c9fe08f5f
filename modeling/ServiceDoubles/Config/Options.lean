import ServiceDoubles.Config.Basic
import ServiceDoubles.Fault
import ServiceDoubles.Text.Terminal
import ServiceDoubles.Text.Utf8

/-!
# ServiceDoubles.Config.Options

The configuration that command line arguments and the environment give.

Design points:
- Arguments and variables come from outside and need not be well-formed text (`Text.Raw`).
- The command line is read from left to right. An option that takes a value is looked at once its
  value is known, that is at the next option or at the end; an argument that cannot be placed is
  reported before that.
- The environment is consulted last, and a variable only where its option was not given. A switch
  that is no truth value is refused; it never stands for stubbing.
-/

namespace ServiceDoubles.Config

open Text (Raw)

/-- The variables that configure a run. -/
structure Environment where
  /-- Passes calls through to the real service. -/
  switch : Option Raw := none
  region : Option Raw := none
deriving Repr, DecidableEq

/-! ### What can be wrong -/

/-- The options. -/
inductive OptionName where
  | realService
  | region
  | help
deriving Repr, DecidableEq

namespace OptionName

/-- The name after the two dashes. -/
def text : OptionName → String
  | realService => "use-real-aws-may-incur-charges"
  | region => "region"
  | help => "help"

/-- The option as messages show it. -/
def usage (o : OptionName) : String :=
  match o with
  | region => "--" ++ o.text ++ " <REGION>"
  | _ => "--" ++ o.text

/-- The option with this name. -/
def ofRaw? (name : Raw) : Option OptionName :=
  [realService, region, help].find? fun o => Raw.ofString o.text == name

end OptionName

/-- Why a command line or an environment is refused. -/
inductive OptionFlaw where
  /-- The description of the options was asked for. -/
  | helpWanted
  | unexpectedArgument (given : String)
  | unexpectedValue (given : String) (option : OptionName)
  | missingValue (option : OptionName)
  | repeated (option : OptionName)
  | notBoolean (text : String) (option : OptionName)
  | notText
deriving Repr, DecidableEq

namespace OptionFlaw

/-- What is wrong. What was given stands there as a terminal shows it. -/
def detail : OptionFlaw → String
  | helpWanted => "Options for stubbed AWS tests"
  | unexpectedArgument given => "unexpected argument '" ++ Text.Terminal.shown given ++ "' found"
  | unexpectedValue given option =>
    "unexpected value '" ++ Text.Terminal.shown given ++ "' for '" ++ option.usage ++
      "' found; no more were expected"
  | missingValue option => "a value is required for '" ++ option.usage ++ "' but none was supplied"
  | repeated option => "the argument '" ++ option.usage ++ "' cannot be used multiple times"
  | notBoolean text option =>
    "invalid value '" ++ Text.Terminal.shown text ++ "' for '" ++ option.usage ++
      "': value was not a boolean"
  | notText => "invalid UTF-8 was detected in one or more arguments"

/-- The fault of a configuration that is refused. -/
def fault (f : OptionFlaw) : Fault :=
  match f with
  | helpWanted => .config f.detail
  | _ => .config ("error: " ++ f.detail)

end OptionFlaw

/-! ### The command line -/

/-- The form of an argument. -/
inductive Argument where
  /-- Two dashes: no option follows. -/
  | escape
  /-- Two dashes and a name, perhaps with a value after an equals sign. -/
  | long (name : Raw) (value : Option Raw)
  /-- A dash and letters. -/
  | short (first : Option Char) (rest : Raw)
  /-- Anything else. -/
  | plain (text : Raw)
deriving Repr, DecidableEq

/-- The form of an argument. -/
def Argument.ofRaw : Raw → Argument
  | [some '-', some '-'] => .escape
  | some '-' :: some '-' :: rest =>
    .long (rest.takeWhile (· ≠ some '=')) (rest.dropWhile (· ≠ some '=')).tail?
  | some '-' :: first :: rest => .short first rest
  | text => .plain text

/-- What the arguments so far gave. -/
structure Given where
  realService : Bool := false
  region : Option String := none
  /-- A region option that was not looked at yet; its value may still be to come. -/
  waiting : Option (Option Raw) := none
deriving Repr, DecidableEq

/-- The text of a value. -/
def textOf (value : Raw) : Except OptionFlaw String :=
  match value.toString? with
  | some s => .ok s
  | none => .error .notText

namespace Given

/-- Looks at a region option. -/
def withRegion (g : Given) (value : Raw) : Except OptionFlaw Given :=
  if g.region.isSome then .error (.repeated .region)
  else
    match textOf value with
    | .ok s => .ok { g with region := some s, waiting := none }
    | .error flaw => .error flaw

/-- Looks at the option that is waiting. -/
def settle (g : Given) : Except OptionFlaw Given :=
  match g.waiting with
  | none => .ok g
  | some none => .error (.missingValue .region)
  | some (some value) => g.withRegion value

/-- What an option with two dashes adds. -/
def long (g : Given) (option : OptionName) (value : Option Raw) : Except OptionFlaw Given :=
  match option, value with
  -- An option that waits is looked at before the next one counts.
  | .region, none => g.settle.map fun g => { g with waiting := some none }
  | .region, some value => do (← g.settle).withRegion value
  | option, some value => .error (.unexpectedValue value.shown option)
  | .realService, none => do
    let g ← g.settle
    if g.realService then .error (.repeated .realService) else .ok { g with realService := true }
  | .help, none => do
    let _ ← g.settle
    .error .helpWanted

/-- What one argument adds. -/
def argument (g : Given) : Argument → Except OptionFlaw Given
  | .escape => .ok g
  | .long name value =>
    match OptionName.ofRaw? name with
    | some option => g.long option value
    | none => .error (.unexpectedArgument ("--" ++ name.shown))
  | .short (some 'h') _ => g.long .help none
  | .short (some c) _ => .error (.unexpectedArgument (String.ofList ['-', c]))
  | .short none rest => .error (.unexpectedArgument ("-" ++ Raw.shown (none :: rest)))
  | .plain text =>
    match g.waiting with
    | some none => .ok { g with waiting := some (some text) }
    | _ => .error (.unexpectedArgument text.shown)

/-- What the arguments give. After two dashes no argument can be placed. -/
def arguments (g : Given) : List Raw → Except OptionFlaw Given
  | [] => g.settle
  | a :: rest =>
    match Argument.ofRaw a, rest with
    -- There are no arguments besides the options, so nothing can follow the two dashes.
    | .escape, [] => g.settle
    | .escape, extra :: _ => .error (.unexpectedArgument extra.shown)
    | form, rest =>
      match g.argument form with
      | .ok g => g.arguments rest
      | .error flaw => .error flaw

end Given

/-! ### The environment -/

/-- The words that switch on. -/
def trueWords : List String := ["y", "yes", "t", "true", "on", "1"]

/-- The words that switch off. -/
def falseWords : List String := ["n", "no", "f", "false", "off", "0"]

/-- The truth value of a word, in letters of any case. -/
def truth? (word : String) : Option Bool :=
  if word.toLower ∈ trueWords then some true
  else if word.toLower ∈ falseWords then some false
  else none

/-- Whether the switch is on. -/
def switchOf : Option Raw → Except OptionFlaw Bool
  | none => .ok standard.useRealService
  | some value =>
    match textOf value with
    | .error flaw => .error flaw
    | .ok s =>
      match truth? s with
      | some b => .ok b
      | none => .error (.notBoolean s .realService)

/-- The region, the default if there is none. -/
def regionOf : Option Raw → Except OptionFlaw String
  | none => .ok standard.region
  | some value => textOf value

/-- The configuration of what was given, with the environment for what was not. -/
def Given.config (g : Given) (env : Environment) : Except OptionFlaw Config := do
  -- A variable is looked at only where the command line is silent.
  let useRealService ← if g.realService then .ok true else switchOf env.switch
  let region ←
    match g.region with
    | some region => .ok region
    | none => regionOf env.region
  return { useRealService, region }

/-- The configuration that a command line gives in an environment. The first argument names the
program and counts for nothing. -/
def ofArguments (env : Environment) (arguments : List Raw) : Except Fault Config :=
  match Given.arguments {} arguments.tail >>= (·.config env) with
  | .ok config => .ok config
  | .error flaw => .error flaw.fault

/-- The configuration that an environment gives. -/
def ofEnvironment (env : Environment) : Except Fault Config := ofArguments env []

end ServiceDoubles.Config
