/-!
The binary number nearest to a decimal, of two equally near the even one. Decimals far outside the range
are settled by their size alone, so that a huge exponent costs nothing.
-/
namespace ReadOnce.Decimal

/-- The number that decimal digits write. -/
def ofDigits (digits : List Char) : Nat :=
  digits.foldl (fun value digit => value * 10 + (digit.toNat - 48)) 0

/-- The number nearest to `digits · 10^exponent`, the digits as written. -/
def toFloat (negative : Bool) (digits : List Char) (exponent : Int) : Float :=
  let mantissa := ofDigits (digits.dropWhile (· = '0'))
  let size : Int := (digits.dropWhile (· = '0')).length + exponent
  let magnitude : Float :=
    if mantissa = 0 ∨ size < -400 then 0.0
    else if size > 400 then 1.0 / 0.0
    else Float.ofScientific mantissa (decide (exponent < 0)) exponent.natAbs
  if negative then -magnitude else magnitude

end ReadOnce.Decimal
