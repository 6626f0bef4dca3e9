import ReadOnce.Decimal.Shortest

/-!
How a binary number is written: the shortest digits that read back, positional from 0.0001 up to below
10^16 and with an exponent of at least two digits outside, always with a point or an exponent.
-/
namespace ReadOnce.Decimal

/-- Where positional writing begins and ends, as the place of the point, and how an exponent is written. -/
structure Layout where
  positionalAbove : Int
  positionalUpTo : Int
  exponentPlaces : Nat
  infinite : String
  undefined : String

/-- Digits without the zeros at their end. -/
private def significant (value : Nat) : List Char :=
  ((toString value).toList.reverse.dropWhile (· = '0')).reverse

private def exponent (layout : Layout) (power : Int) : List Char :=
  let digits := (toString power.natAbs).toList
  [if power < 0 then '-' else '+'] ++ List.replicate (layout.exponentPlaces - digits.length) '0' ++ digits

/-- A positive finite number. -/
private def magnitude (layout : Layout) (number : Float) : List Char :=
  let decimal := shortest number
  let digits := significant decimal.value
  if layout.positionalAbove < decimal.point ∧ decimal.point ≤ layout.positionalUpTo then
    let before := decimal.point.toNat
    if decimal.point ≤ 0 then ['0', '.'] ++ List.replicate (-decimal.point).toNat '0' ++ digits
    else if digits.length ≤ before then
      digits ++ List.replicate (before - digits.length) '0' ++ ['.', '0']
    else digits.take before ++ ['.'] ++ digits.drop before
  else
    let tail := if digits.length > 1 then ['.'] ++ digits.drop 1 else []
    digits.take 1 ++ tail ++ ['e'] ++ exponent layout (decimal.point - 1)

def Layout.write (layout : Layout) (number : Float) : String :=
  if number.isNaN then layout.undefined
  else
    let negative := number.toBits.toNat ≥ Nat.pow 2 63
    let size := number.abs
    let body :=
      if size.isInf then layout.infinite.toList
      else if size == 0.0 then ['0', '.', '0']
      else magnitude layout size
    String.ofList ((if negative then ['-'] else []) ++ body)

/-- Numbers in messages. -/
def display : Layout := ⟨-4, 16, 2, "inf", "nan"⟩

/-- Numbers in JSON documents, which have words of their own for what is not finite. -/
def document : Layout := ⟨-4, 16, 2, "Infinity", "NaN"⟩

end ReadOnce.Decimal
