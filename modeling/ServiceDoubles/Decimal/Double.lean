/-!
# ServiceDoubles.Decimal.Double

Finite binary numbers of 53 significant bits, with exact arithmetic on naturals behind every
operation: the exact result is formed as a quotient and rounded once, to the nearest number, ties to
the even one.

Design points:
- A number is a sign and its **rank**: the position of its magnitude among all magnitudes, counted
  from zero. The rank of m · 2^q, with 2^52 ≤ m < 2^53 or q least, is (q + 1074) · 2^52 + m, so
  neighbours have neighbouring ranks, below and above a power of two alike.
- Zero has two signs, which print differently and compare equal.
-/

namespace ServiceDoubles

/-- A binary number of double precision: a sign and the rank of its magnitude. -/
structure Double where
  negative : Bool
  rank : Nat
deriving Repr, DecidableEq

namespace Double

/-- 2^52, the least significand of full length. -/
def full : Nat := Nat.pow 2 52

/-- The first rank past the greatest finite magnitude. -/
def overflowRank : Nat := 2046 * full + full

/-- The magnitude's significand m in m · 2^q. -/
def significand (rank : Nat) : Nat :=
  if rank < full then rank else full + rank % full

/-- The magnitude's exponent q in m · 2^q. -/
def exponent (rank : Nat) : Int :=
  if rank < full then -1074 else (rank / full : Nat) - 1075

/-- The magnitude as a quotient of naturals. -/
def quotient (rank : Nat) : Nat × Nat :=
  (significand rank * Nat.pow 2 (exponent rank).toNat, Nat.pow 2 (-(exponent rank)).toNat)

/-- `num / den` to the nearest natural, ties to the even one. -/
def roundQuotient (num den : Nat) : Nat :=
  let q := num / den
  let r := num % den
  if 2 * r < den then q
  else if den < 2 * r then q + 1
  else if q % 2 = 0 then q else q + 1

/-- The exponent at which `num / den` has a significand of full length, or the least exponent if
that is greater. -/
def exponentOf (num den : Nat) : Int :=
  let q : Int := (num.log2 : Int) - (den.log2 : Int) - 52
  let short := num * Nat.pow 2 (-q).toNat / (den * Nat.pow 2 q.toNat) < full
  max (-1074) (if short then q - 1 else q)

/-- The rank of the magnitude nearest to `num / den`; at least `overflowRank` if none is near. -/
def rankOf (num den : Nat) : Nat :=
  if num = 0 then 0
  else
    let q := exponentOf num den
    (q + 1074).toNat * full +
      roundQuotient (num * Nat.pow 2 (-q).toNat) (den * Nat.pow 2 q.toNat)

/-- The rank of the magnitude nearest to the natural `n`. -/
def rankOfNat (n : Nat) : Nat := rankOf n 1

/-- The rank of the rounded product. -/
def mulRank (a b : Nat) : Nat :=
  rankOf ((quotient a).1 * (quotient b).1) ((quotient a).2 * (quotient b).2)

/-- The rank of the rounded quotient. -/
def divRank (a b : Nat) : Nat :=
  rankOf ((quotient a).1 * (quotient b).2) ((quotient a).2 * (quotient b).1)

/-- Whether two numbers have the same value: zero has it under both signs. -/
def same (a b : Double) : Bool :=
  (a.rank == 0 && b.rank == 0) || (a.negative == b.negative && a.rank == b.rank)

/-! ### Decimal literals

A literal is its digits, read as one natural as far as 64 bits hold it, and a power of ten. Both are
rounded, and so is their product or quotient: the last bit can differ from that of the nearest
number. -/

/-- The greatest power of ten that is multiplied in one step. -/
def largestPower : Nat := 308

/-- The rank of the rounded power 10^n. -/
def powerRank (n : Nat) : Nat := rankOfNat (Nat.pow 10 n)

/-- The rank `r` divided by 10^n, in steps of at most `largestPower`. -/
def divPower (r n : Nat) : Nat :=
  if r = 0 then 0
  else if n ≤ largestPower then divRank r (powerRank n)
  else divPower (divRank r (powerRank largestPower)) (n - largestPower)
termination_by n
decreasing_by simp only [largestPower] at *; omega

/-- The rank of `digits` · 10^`exponent`; `none` if it is past the greatest number. -/
def ofLiteral? (digits : Nat) (exponent : Int) : Option Nat :=
  let r := rankOfNat digits
  if exponent < 0 then some (divPower r exponent.natAbs)
  else if r = 0 then some 0
  else if exponent.toNat ≤ largestPower then
    let product := mulRank r (powerRank exponent.toNat)
    if product < overflowRank then some product else none
  else none

end Double

end ServiceDoubles
