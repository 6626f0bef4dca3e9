/-!
The whole part of a binary number. Its fraction is dropped, so that numbers on either side of zero go towards
it; infinities and what is no number have no whole part.
-/
namespace ReadOnce.Decimal

inductive WholeFault where
  | infinite
  | notANumber
deriving DecidableEq, Repr

def WholeFault.message : WholeFault → String
  | infinite => "cannot convert float infinity to integer"
  | notANumber => "cannot convert float NaN to integer"

/-- The whole part of the number with these 64 bits. -/
def wholeOfBits (bits : UInt64) : Except WholeFault Int :=
  let exponent := bits.toNat / Nat.pow 2 52 % 2048
  let fraction := bits.toNat % Nat.pow 2 52
  if exponent = 2047 then .error (if fraction = 0 then .infinite else .notANumber)
  else
    let mantissa := if exponent = 0 then fraction else fraction + Nat.pow 2 52
    let size : Nat := mantissa * Nat.pow 2 (exponent - 1075) / Nat.pow 2 (1075 - exponent)
    .ok (if bits.toNat / Nat.pow 2 63 = 0 then (size : Int) else -size)

def whole (number : Float) : Except WholeFault Int := wholeOfBits number.toBits

end ReadOnce.Decimal
