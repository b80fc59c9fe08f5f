import ServiceDoubles.Json.Basic

/-!
# ServiceDoubles.Pattern

Expected parameters. An expectation is a JSON value in which a reserved text stands for any value;
all else must be the same in the actual parameters, with no key more or less and no item more or
less.

Objects list their fields by ascending key, so the keys of two objects are the same exactly when the
fields pair up from the front.
-/

namespace ServiceDoubles.Pattern

/-- The text that stands for any value. As a key it stands for itself. -/
def wildcard : String := "<stubkit:any>"

/-- The expectation that accepts any value. -/
def any : Json := .string wildcard

mutual
/-- Whether the expectation accepts the actual value. -/
def accepts : Json → Json → Bool
  | .string s, a => s == wildcard || Json.same (.string s) a
  | .object es, .object as => acceptsFields es as
  | .array es, .array as => acceptsItems es as
  | e, a => e.same a
/-- Whether the expected items accept the actual ones, one for one. -/
def acceptsItems : List Json → List Json → Bool
  | [], [] => true
  | e :: es, a :: as => accepts e a && acceptsItems es as
  | _, _ => false
/-- Whether the expected fields accept the actual ones, key for key. -/
def acceptsFields : List (String × Json) → List (String × Json) → Bool
  | [], [] => true
  | (j, e) :: es, (k, a) :: as => j == k && accepts e a && acceptsFields es as
  | _, _ => false
end

end ServiceDoubles.Pattern
