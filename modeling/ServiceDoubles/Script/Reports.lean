import ServiceDoubles.Assertion
import ServiceDoubles.Config.Reader
import ServiceDoubles.Script.Session
import ServiceDoubles.Script.Tour
import ServiceDoubles.Trace.Log

/-!
# ServiceDoubles.Script.Reports

Reports on the parts of the library that need no bench: configurations, faults, assertions, marks,
unique names and the log.
-/

namespace ServiceDoubles.Script

/-- The report of an outcome. -/
def outcomeReport (o : Outcome Json) : Json := Json.record (outcomeFields o)

/-! ### Configurations -/

/-- The report of a configuration. -/
def configReport (c : Config) : Json :=
  Json.record
    [("use_real_aws", .bool c.useRealService), ("default_region", .string c.region),
     ("use_stubs", .bool c.useStubs), ("json", .string c.text), ("debug", .string c.outline)]

/-- The report of a configuration that was asked for. -/
def configOutcome (c : Except Fault Config) : Outcome Json := (Outcome.ofExcept c).map configReport

/-- A step that asks for the configuration of the process. -/
structure LoadStep where
  env : Config.Environment
  /-- Whether a scope is made of it. -/
  forScope : Bool
deriving Repr, DecidableEq

/-- What a step does. The configuration that is loaded is the one that the process keeps. -/
def LoadStep.act (step : LoadStep) : Act Config.Cache Json :=
  if step.forScope then do
    let scope : Scope SessionWorld ← Scope.ofProcess step.env
    return Json.record
      [("config", configReport scope.config), ("use_real_aws", .bool scope.config.useRealService),
       ("services", Json.ofTexts scope.registry.services)]
  else do
    let config ← Config.load step.env
    let cache ← Act.get
    return Json.record
      [("config", configReport config), ("same_object", .bool (cache == some config))]

/-- Runs such steps in one process. -/
def runLoads (cache : Config.Cache) : List LoadStep → List (Outcome Json)
  | [] => []
  | step :: rest =>
    let r := step.act cache
    r.outcome :: runLoads r.state rest

/-! ### Faults and assertions -/

/-- The report of a fault, and which of the codes it has. -/
def faultReport (cause : Fault) (codes : List String) : Json :=
  Json.record
    [("error", Json.record (faultFields cause)), ("error_code", Json.ofText? cause.code?),
     ("is", .array (codes.map fun code => .bool (cause.hasCode code))),
     ("debug",
      match cause with
      | .json _ => .null
      | _ => .string cause.outline)]

/-- What is asserted of a result, with what a failure says first or with the code it asks for. -/
inductive Expectation where
  | isOk (text : String)
  | isFault (text : String)
  | isServiceFault (code : String)
deriving Repr, DecidableEq

/-- The outcome of an assertion that gives `report` of what it lets through. -/
def assertionOutcome {α : Type} (report : α → Json) : Except String α → Outcome Json
  | .ok a => .ok (report a)
  | .error text => .unwound text

/-- Asserts something of a result. -/
def Expectation.outcome (e : Expectation) (result : Except Fault Json) : Outcome Json :=
  match e with
  | isOk text => assertionOutcome id (Assertion.isOk text result)
  | isFault text =>
    assertionOutcome (fun cause => Json.record (faultFields cause))
      (Assertion.isFault text Json.outline result)
  | isServiceFault code =>
    assertionOutcome (fun _ => .null) (Assertion.isServiceFault code Json.outline result)

/-! ### Marks -/

/-- The report of a function that is left early, with `value`, where a marked test is skipped. -/
def skipReport (config : Config) (value : Json) : Json :=
  let skipped := (Marker.skip? config [.stubbedOnly]).isSome
  Json.record
    [("unit_form_reached", .bool !skipped),
     ("value_form",
      Json.record
        (("returned_early", .bool skipped) :: if skipped then [("value", value)] else []))]

/-! ### Unique names -/

/-- Gives `count` names, all with one beginning. -/
def giveNames (clock : Int) (beginning : String) : Nat → Act SessionWorld (List String)
  | 0 => return []
  | n + 1 => do
    let name ← World.uniqueName clock beginning
    return name :: (← giveNames clock beginning n)

/-- The number at the end of a name. -/
def nameNumber (beginning name : String) : Nat :=
  (name.toList.drop beginning.length).foldl (fun n c => n * 10 + (c.toNat - 48)) 0

/-- Whether each number is less than the one after it. -/
def isAscending : List Nat → Bool
  | a :: b :: rest => a < b && isAscending (b :: rest)
  | _ => true

/-- The report of names that were given in a row. -/
def namesReport (beginning : String) (names : List String) : Json :=
  Json.record
    [("count", Json.ofNat names.length),
     ("prefix_then_digits", .bool (names.all (isNumbered beginning))),
     ("strictly_increasing", .bool (isAscending (names.map (nameNumber beginning))))]

/-- The report of `count` names. -/
def uniqueReport (clock : Int) (beginning : String) (count : Nat) : Outcome Json :=
  (giveNames clock beginning count (World.fresh [])).outcome.map (namesReport beginning)

/-! ### The log -/

/-- The report of a line. -/
def lineReport (l : LogLine) : Json :=
  Json.record
    [("level", .string l.level.label), ("target", .string l.target),
     ("location", .bool l.hasLocation), ("text", .string l.text)]

/-- The report of which levels are on. -/
def levelsReport (isOn : Level → Bool) : Json :=
  Json.record (Level.all.map fun level => (level.name, .bool (isOn level)))

/-- The report of the tour. A process that broke off tells nothing. -/
def tourReport (logging : Logging) : Json :=
  match logging with
  | .off => Json.record [("enabled", levelsReport fun _ => false), ("lines", .array [])]
  | .on log =>
    Json.record
      [("enabled", levelsReport fun level => log.enabled level "stubkit"),
       ("lines", .array ((log.lines tourEvents).map lineReport))]
  | .broken => Json.record [("enabled", .null), ("lines", .array [])]

/-! ### Constants -/

/-- The report of the constants and defaults of the library. -/
def constantsReport : Json :=
  Json.record
    [("any", .string Pattern.wildcard), ("default_error_code", .string ({} : RunOptions).code),
     ("default_region", .string Config.standard.region), ("flag", .string Config.realServiceOption),
     ("env", .string Config.realServiceVariable), ("service", .string Storage.serviceName),
     ("operations", Json.ofTexts Storage.operations), ("skip_reason", .string Marker.skipReason),
     ("marker", Json.ofTexts [Marker.stubbedOnly.name, Marker.stubbedOnly.description]),
     ("run_options", .string ({} : RunOptions).outline),
     ("default_config", configReport Config.standard),
     ("log_default", Json.ofTexts [({} : LogConfig).level.name, ({} : LogConfig).level.name]),
     ("log_location", .bool ({} : LogConfig).includeLocation)]

end ServiceDoubles.Script
