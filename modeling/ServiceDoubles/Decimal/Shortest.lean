import ServiceDoubles.Decimal.Double

/-!
# ServiceDoubles.Decimal.Shortest

The fewest decimal digits that identify a binary number. The reals that round to a number form an
interval, whose ends belong to it exactly when the significand is even. Of all decimals in the
interval the one with the fewest digits is taken, and among those the nearest to the number; of two
that are equally near, the one whose last digit is even.

The search tries one digit, two digits and so on: of the decimals with n digits only the two
neighbours of the number can be nearest, and if any lies in the interval then one of these two does.
-/

namespace ServiceDoubles.Decimal

/-- A positive decimal: `digits` · 10^`exponent`. -/
structure Digits where
  digits : Nat
  exponent : Int
deriving Repr, DecidableEq

/-- Moves trailing zeros of the digits into the exponent. -/
def Digits.strip (d : Digits) : Digits :=
  if h : 0 < d.digits ∧ d.digits % 10 = 0 then
    Digits.strip ⟨d.digits / 10, d.exponent + 1⟩
  else d
termination_by d.digits
decreasing_by exact Nat.div_lt_self h.1 (by omega)

/-- How many decimal digits `n` has; one for zero. -/
def length (n : Nat) : Nat := (Nat.toDigits 10 n).length

/-- The least k with `num / den` < 10^k, for a positive quotient. -/
def scale (num den : Nat) : Int :=
  if den ≤ num then length (num / den)
  else
    let places := (List.range 400).find? fun j => den ≤ num * Nat.pow 10 (j + 1)
    Int.negOfNat (places.getD 0)

/-- The interval of a number in quarters of its last place, and the number itself in the middle. -/
structure Interval where
  low : Nat
  middle : Nat
  high : Nat
  closed : Bool

/-- The interval of the reals that round to the magnitude of rank `r`. The gap below a power of two
is half the gap above it. -/
def Interval.ofRank (r : Nat) : Interval :=
  let m := Double.significand r
  let narrow := m = Double.full ∧ Double.full < r
  { low := if narrow then 4 * m - 1 else 4 * m - 2
    middle := 4 * m
    high := 4 * m + 2
    closed := m % 2 == 0 }

/-- Whether `n / den` lies in the interval whose quarters are multiplied by `unit`. -/
def Interval.holds (i : Interval) (unit den n : Nat) : Bool :=
  if i.closed then i.low * unit ≤ n * den && n * den ≤ i.high * unit
  else i.low * unit < n * den && n * den < i.high * unit

/-- The decimal nearest to the magnitude of rank `r` among those with `n` digits that lie in its
interval, where 10^`k` is the least power of ten above the magnitude. -/
def nearest? (r : Nat) (k : Int) (n : Nat) : Option Digits :=
  let i := Interval.ofRank r
  let q := Double.exponent r - 2
  let grid := k - n
  -- A power with a negative exponent stands on the other side, so that all numbers are natural.
  let unit := Nat.pow 2 q.toNat * Nat.pow 10 (-grid).toNat
  let den := Nat.pow 2 (-q).toNat * Nat.pow 10 grid.toNat
  let below := i.middle * unit / den
  -- The neighbours are `below` and `below + 1`, and `half` is twice the point between them.
  let half := (2 * below + 1) * den
  let nearBelow := 2 * i.middle * unit < half || (2 * i.middle * unit = half && below % 2 = 0)
  -- The nearer neighbour may lie outside the interval while the other lies inside, since the
  -- interval of a power of two is not symmetric.
  if nearBelow && i.holds unit den below then some ⟨below, grid⟩
  else if i.holds unit den (below + 1) then some ⟨below + 1, grid⟩
  else if i.holds unit den below then some ⟨below, grid⟩
  else none

/-- The fewest digits that identify the positive magnitude of rank `r`. Seventeen always suffice;
past them stands the exact value. -/
def shortest (r : Nat) : Digits :=
  let v := Double.quotient r
  let k := scale v.1 v.2
  let found := (List.range 17).findSome? fun n => nearest? r k (n + 1)
  let exact : Digits :=
    ⟨Double.significand r * Nat.pow 2 (Double.exponent r).toNat *
        Nat.pow 5 (-(Double.exponent r)).toNat,
      min 0 (Double.exponent r)⟩
  (found.getD exact).strip

end ServiceDoubles.Decimal
