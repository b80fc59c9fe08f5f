import ServiceDoubles.Text.Quoted
import ServiceDoubles.Trace.Filter

/-!
# ServiceDoubles.Trace.Log

The log of a process. It is set up once: the first setup counts and later ones are ignored. The
filter comes from a variable if that holds one, and else from the level of the setup. A variable
that splits a character breaks the setup off.
-/

namespace ServiceDoubles

/-- How the log is to be set up. -/
structure LogConfig where
  /-- The least level that is logged unless the variable says otherwise. -/
  level : Level := .warn
  /-- Whether a line tells where it comes from. -/
  includeLocation : Bool := false
deriving Repr, DecidableEq

/-- A log that was set up. -/
structure Log where
  filter : Filter
  includeLocation : Bool
deriving Repr, DecidableEq

/-- A line of a log. -/
structure LogLine where
  level : Level
  target : String
  hasLocation : Bool
  text : String
deriving Repr, DecidableEq

namespace Log

/-- The log of a first setup, with the text of the variable, if it is set; none if the setup breaks
off. -/
def start? (setting : Option String) (config : LogConfig) : Option Log :=
  match setting.map Filter.ofText with
  | some (.ok filter) => some ⟨filter, config.includeLocation⟩
  | some (.error .split) => none
  | _ => some ⟨Filter.ofLevel config.level, config.includeLocation⟩

/-- A field on a log line. -/
def fieldText (field : String × FieldValue) : String :=
  field.1 ++ "=" ++
    match field.2 with
    | .plain text => Text.quoted text
    | .shown text => text

/-- The text of an event: its message and its fields. -/
def eventText (e : Event) : String := " ".intercalate (e.message :: e.fields.map fieldText)

/-- Whether events of a level are logged for a target, as far as that can be told without their
fields. -/
def enabled (log : Log) (level : Level) (target : String) : Bool :=
  log.filter.allows level target none

/-- The line of an event, if it is logged. -/
def line? (log : Log) (e : Event) : Option LogLine :=
  if log.filter.allows e.level e.target (some e.fieldNames) then
    some ⟨e.level, e.target, log.includeLocation, eventText e⟩
  else none

/-- The lines of events, in order. -/
def lines (log : Log) (events : List Event) : List LogLine := events.filterMap log.line?

end Log

/-- What the setups of a process led to. -/
inductive Logging where
  /-- There was none, so that nothing is logged. -/
  | off
  | on (log : Log)
  /-- The first one broke off, and the process with it. -/
  | broken
deriving Repr, DecidableEq

namespace Logging

/-- What these setups lead to. -/
def ofSetups (setting : Option String) : List LogConfig → Logging
  | [] => off
  | config :: _ => (Log.start? setting config).elim broken on

end Logging

end ServiceDoubles
