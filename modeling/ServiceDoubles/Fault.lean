import ServiceDoubles.Json.Reader

/-!
# ServiceDoubles.Fault

What can go wrong when doubles are used. A fault is its cause; the wording is in `Fault.message`,
and `Fault.outline` shows the cause with its parts.
-/

namespace ServiceDoubles

/-- The cause of a failure. -/
inductive Fault where
  /-- A call of the service failed. Failures that a stub asks for are of this kind. -/
  | service (code message : String)
  /-- No constructor of stubbers is registered for the service. -/
  | noStubber (service : String)
  /-- The registered stubber is not of the kind that was asked for. -/
  | stubberMismatch (service expected : String)
  /-- The service has no such operation. -/
  | unknownOperation (service operation : String)
  /-- A call came while no stubbed call was queued. -/
  | noResponse (operation : String)
  /-- A call came for another operation than the one stubbed next. -/
  | unexpectedCall (expected actual : String)
  /-- A call came with other parameters than the stub expects. -/
  | paramMismatch (operation : String) (expected actual : Json)
  /-- Stubbed calls were left over. -/
  | pendingResponses (operations : List String)
  /-- The configuration cannot be used. -/
  | config (reason : String)
  /-- A JSON text was refused. -/
  | json (flaw : Json.Flaw)
deriving Inhabited

namespace Fault

/-- The name of the kind of fault. -/
def kind : Fault → String
  | service .. => "Service"
  | noStubber .. => "NoStubberForService"
  | stubberMismatch .. => "StubberTypeMismatch"
  | unknownOperation .. => "UnknownOperation"
  | noResponse .. => "NoStubbedResponse"
  | unexpectedCall .. => "UnexpectedCall"
  | paramMismatch .. => "ParamMismatch"
  | pendingResponses .. => "PendingResponses"
  | config .. => "Config"
  | json .. => "Json"

/-- The text of a flaw in a JSON text. -/
def flawText : Json.Flaw → String
  | .malformed => "Syntax"
  | .cutShort => "Eof"
  | .mismatch detail => detail

/-- The message that tells what went wrong. -/
def message : Fault → String
  | service code text => "An error occurred (" ++ code ++ ") when calling the service: " ++ text
  | noStubber name => "No stubber registered for service: " ++ name
  | stubberMismatch name expected => "Stubber for service " ++ name ++ " is not a " ++ expected
  | unknownOperation name operation =>
    "Unknown operation for service " ++ name ++ ": " ++ operation
  | noResponse operation => "Unexpected call to " ++ operation ++ ": no stubbed responses remain"
  | unexpectedCall expected actual =>
    "Operation mismatch: found " ++ actual ++ ", expected " ++ expected
  | paramMismatch operation expected actual =>
    "Expected parameters for " ++ operation ++ ":\n" ++ expected.text ++ "\nbut received:\n" ++
      actual.text
  | pendingResponses operations =>
    "Expected all stubbed responses to be consumed, " ++ intText operations.length ++ " remain: " ++
      ", ".intercalate operations
  | config reason => "Invalid harness configuration: " ++ reason
  | json flaw => "JSON error: " ++ flawText flaw

/-- The code that the service gave, if the service failed. -/
def code? : Fault → Option String
  | service code _ => some code
  | _ => none

/-- Whether the service failed with this code. -/
def hasCode (f : Fault) (code : String) : Bool := f.code? == some code

open Text (quoted) in
/-- The cause with its parts. -/
def outline (f : Fault) : String :=
  match f with
  | service code text =>
    Text.Outline.record f.kind [("code", quoted code), ("message", quoted text)]
  | noStubber name => Text.Outline.tagged f.kind (quoted name)
  | stubberMismatch name expected =>
    Text.Outline.record f.kind [("service", quoted name), ("expected", quoted expected)]
  | unknownOperation name operation =>
    Text.Outline.record f.kind [("service", quoted name), ("operation", quoted operation)]
  | noResponse operation => Text.Outline.record f.kind [("operation", quoted operation)]
  | unexpectedCall expected actual =>
    Text.Outline.record f.kind [("expected", quoted expected), ("actual", quoted actual)]
  | paramMismatch operation expected actual =>
    Text.Outline.record f.kind
      [("operation", quoted operation), ("expected", expected.outline), ("actual", actual.outline)]
  | pendingResponses operations => Text.Outline.tagged f.kind (Text.Outline.texts operations)
  | config reason => Text.Outline.tagged f.kind (quoted reason)
  | json flaw => Text.Outline.tagged f.kind (quoted (flawText flaw))

end Fault

end ServiceDoubles
