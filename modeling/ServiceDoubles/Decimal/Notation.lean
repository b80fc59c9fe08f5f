import ServiceDoubles.Decimal.Shortest

/-!
# ServiceDoubles.Decimal.Notation

The text of a binary number: its shortest digits, written positionally while the exponent of the
leading digit is from -5 to 15 and otherwise with one digit before the point and a signed exponent.
-/

namespace ServiceDoubles.Decimal

/-- Exponents of the leading digit, from this one on, are written positionally. -/
def positionalFrom : Int := -5

/-- Exponents of the leading digit, from this one on, are written out again. -/
def positionalBelow : Int := 16

/-- `n` zeros. -/
def zeros (n : Nat) : List Char := List.replicate n '0'

/-- The digits around the point, at least one on each side. -/
def positional (digits : List Char) (leading : Int) : List Char :=
  if leading < 0 then
    '0' :: '.' :: (zeros (-leading - 1).toNat ++ digits)
  else
    let whole := leading.toNat + 1
    if digits.length ≤ whole then digits ++ zeros (whole - digits.length) ++ ['.', '0']
    else digits.take whole ++ '.' :: digits.drop whole

/-- One digit, the others after a point, and the exponent with its sign. -/
def scientific (digits : List Char) (leading : Int) : List Char :=
  let mantissa := match digits with
    | [d] => [d]
    | d :: more => d :: '.' :: more
    | [] => []
  let sign := if leading < 0 then '-' else '+'
  mantissa ++ 'e' :: sign :: Nat.toDigits 10 leading.natAbs

/-- The text of a positive decimal. -/
def Digits.text (d : Digits) : List Char :=
  let digits := Nat.toDigits 10 d.digits
  let leading := d.exponent + digits.length - 1
  if positionalFrom ≤ leading && leading < positionalBelow then positional digits leading
  else scientific digits leading

end ServiceDoubles.Decimal

namespace ServiceDoubles.Double

/-- The text of a number. Zero keeps its sign. -/
def text (d : Double) : String :=
  let magnitude := if d.rank = 0 then ['0', '.', '0'] else (Decimal.shortest d.rank).text
  String.ofList (if d.negative then '-' :: magnitude else magnitude)

end ServiceDoubles.Double
