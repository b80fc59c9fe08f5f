/-!
# ServiceDoubles.Text.Hex

Hexadecimal digits.
-/

namespace ServiceDoubles.Text

/-- `n` in lower case hexadecimal digits. -/
def hex (n : Nat) : List Char := Nat.toDigits 16 n

/-- The value of a hexadecimal digit of either case. -/
def hexDigit? (c : Char) : Option Nat :=
  if '0' ≤ c ∧ c ≤ '9' then some (c.toNat - 48)
  else if 'a' ≤ c ∧ c ≤ 'f' then some (c.toNat - 87)
  else if 'A' ≤ c ∧ c ≤ 'F' then some (c.toNat - 55)
  else none

end ServiceDoubles.Text
