/-!
The shortest decimal that reads back as a given binary number. A positive finite number is m · 2^q; the
decimals that round to it lie within half a step of it, ends included when m is even. For one digit, two
digits and so on, the two neighbours of the number on that decimal grid are tested exactly, and the first
grid with a hit gives the digits, the nearer neighbour first.
-/
namespace ReadOnce.Decimal

/-- A positive decimal 0.d₁d₂d₃… · 10^point, the digits as one number. -/
structure Digits where
  value : Nat
  point : Int
deriving Repr, DecidableEq

/-- A positive fraction, together with how far below and above it a decimal still rounds to it. -/
structure Target where
  value : Nat
  below : Nat
  above : Nat
  unit : Nat
  endsIncluded : Bool

namespace Target

/-- The number with these 64 bits, its sign put aside. -/
def ofBits (bits : UInt64) : Target :=
  let exponent := bits.toNat / Nat.pow 2 52 % 2048
  let fraction := bits.toNat % Nat.pow 2 52
  let mantissa := if exponent = 0 then fraction else fraction + Nat.pow 2 52
  let shift : Int := (max exponent 1 : Nat) - 1075
  let scale := Nat.pow 2 shift.toNat
  { value := 4 * mantissa * scale
    below := if fraction = 0 ∧ exponent > 1 then scale else 2 * scale
    above := 2 * scale
    unit := 4 * Nat.pow 2 (-shift).toNat
    endsIncluded := mantissa % 2 = 0 }

/-- Whether the fraction `numerator / denominator` rounds to the target. -/
def Hit (target : Target) (numerator denominator : Nat) : Bool :=
  let here := numerator * target.unit
  let low := (target.value - target.below) * denominator
  let high := (target.value + target.above) * denominator
  if target.endsIncluded then low ≤ here && here ≤ high else low < here && here < high

/-- The number of places before the decimal point, the first digit of which is not zero. -/
def point (target : Target) : Int :=
  if target.value ≥ target.unit then (toString (target.value / target.unit)).length
  else
    let zeros := (toString (target.unit / target.value)).length
    if target.value * Nat.pow 10 (zeros - 1) ≥ target.unit then 2 - zeros else 1 - zeros

/-- The neighbour on the grid of `count` digits that rounds to the target, the nearer of the two first. -/
def onGrid? (target : Target) (point : Int) (count : Nat) : Option Nat :=
  let places : Int := count - point
  let numerator := target.value * Nat.pow 10 places.toNat
  let denominator := target.unit * Nat.pow 10 (-places).toNat
  let floor := numerator / denominator
  let rest := 2 * (numerator % denominator)
  let hit (digits : Nat) := target.Hit (digits * Nat.pow 10 (-places).toNat) (Nat.pow 10 places.toNat)
  let nearer := if rest < denominator ∨ (rest = denominator ∧ floor % 2 = 0) then floor else floor + 1
  let farther := if nearer = floor then floor + 1 else floor
  if hit nearer then some nearer else if hit farther then some farther else none

end Target

/-- The shortest digits that read back as a positive finite number. -/
def shortest (number : Float) : Digits :=
  let target := Target.ofBits number.toBits
  let point := target.point
  match (List.range 17).findSome? fun count => (target.onGrid? point (count + 1)).map (·, count + 1) with
  | some (value, count) =>
    if value = Nat.pow 10 count then ⟨1, point + 1⟩ else ⟨value, point⟩
  | none => ⟨0, 0⟩

end ReadOnce.Decimal
