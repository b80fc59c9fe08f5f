/-!
# ServiceDoubles.Trace.Event

The events that the doubles report while they work. An event has a level, the place that reports it,
a message and named fields; what becomes of it is decided elsewhere (`ServiceDoubles.Trace.Filter`).
-/

namespace ServiceDoubles

/-- How much an event matters. -/
inductive Level where
  | trace
  | debug
  | info
  | warn
  | error
deriving Repr, DecidableEq, Inhabited

namespace Level

/-- All levels, the least important first. -/
def all : List Level := [trace, debug, info, warn, error]

/-- The position among the levels; an error has the greatest. -/
def weight : Level → Nat
  | trace => 0
  | debug => 1
  | info => 2
  | warn => 3
  | error => 4

/-- The name in configurations. -/
def name : Level → String
  | trace => "trace"
  | debug => "debug"
  | info => "info"
  | warn => "warn"
  | error => "error"

/-- The name in reports. -/
def label : Level → String
  | trace => "TRACE"
  | debug => "DEBUG"
  | info => "INFO"
  | warn => "WARN"
  | error => "ERROR"

end Level

/-- The value of a field. -/
inductive FieldValue where
  /-- A text given as such: a log line sets it off with quotes. -/
  | plain (text : String)
  /-- The written form of a value. -/
  | shown (text : String)
deriving Repr, DecidableEq

/-- The text of a field without quotes. -/
def FieldValue.text : FieldValue → String
  | plain s => s
  | shown s => s

/-- One event. -/
structure Event where
  level : Level
  target : String
  message : String
  fields : List (String × FieldValue)
deriving Repr, DecidableEq

/-- The names of the fields. The message counts as one. -/
def Event.fieldNames (e : Event) : List String := "message" :: e.fields.map (·.1)

end ServiceDoubles
