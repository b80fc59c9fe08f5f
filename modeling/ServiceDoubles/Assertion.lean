import ServiceDoubles.Fault

/-!
# ServiceDoubles.Assertion

Assertions on the result of a call. An assertion that holds gives what the test goes on with, and
one that does not gives the text that fails the test.
-/

namespace ServiceDoubles.Assertion

variable {α : Type}

/-- The text of a failed assertion: what was expected, and the outline of what came instead. -/
def failure (expectation found : String) : String := expectation ++ ": " ++ found

/-- Expects a value. -/
def isOk (expectation : String) : Except Fault α → Except String α
  | .ok a => .ok a
  | .error cause => .error (failure expectation cause.outline)

/-- Expects a fault. -/
def isFault (expectation : String) (outline : α → String) : Except Fault α → Except String Fault
  | .ok a => .error (failure expectation (outline a))
  | .error cause => .ok cause

/-- What is said when a value was expected, unless the test says something else. -/
def okExpectation : String := "Expected Ok, got Err"

/-- What is said when a fault was expected, unless the test says something else. -/
def faultExpectation : String := "Expected Err, got Ok"

/-- Expects that the service failed with `code`. -/
def isServiceFault (code : String) (outline : α → String) : Except Fault α → Except String Unit
  | .ok a => .error (failure ("Expected service error " ++ code ++ ", got Ok") (outline a))
  | .error cause =>
    if cause.hasCode code then .ok ()
    else .error (failure ("Expected service error " ++ code ++ ", got") cause.message)

end ServiceDoubles.Assertion
