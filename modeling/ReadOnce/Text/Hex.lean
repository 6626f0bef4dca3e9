import ReadOnce.Bytes

/-! Lower-case hexadecimal digits, two for each byte. -/
namespace ReadOnce.Text.Hex

/-- The lower-case digit of a number below sixteen. -/
def digit (value : Nat) : Char := if value < 10 then Char.ofNat (48 + value) else Char.ofNat (87 + value)

/-- The value of a digit in either case. -/
def value? (digit : Char) : Option Nat :=
  if '0' ≤ digit ∧ digit ≤ '9' then some (digit.toNat - 48)
  else if 'a' ≤ digit ∧ digit ≤ 'f' then some (digit.toNat - 87)
  else if 'A' ≤ digit ∧ digit ≤ 'F' then some (digit.toNat - 55)
  else none

/-- Two digits, the high half of the byte first. -/
def pair (byte : UInt8) : List Char := [digit (byte.toNat / 16), digit (byte.toNat % 16)]

def encode (bytes : Bytes) : String := String.ofList (bytes.flatMap pair)

def decode? (text : String) : Option Bytes :=
  go text.toList #[]
where
  go : List Char → Array UInt8 → Option Bytes
    | [], bytes => some bytes.toList
    | [_], _ => none
    | high :: low :: rest, bytes =>
      match value? high, value? low with
      | some upper, some lower => go rest (bytes.push (UInt8.ofNat (upper * 16 + lower)))
      | _, _ => none

/-- A number on a fixed count of digits. -/
def ofNat : (places : Nat) → Nat → List Char
  | 0, _ => []
  | places + 1, value => digit (value / Nat.pow 16 places % 16) :: ofNat places value

/-- The sixteen digits of the sign, exponent and fraction bits of a number. -/
def ofFloat (number : Float) : String := String.ofList (ofNat 16 number.toBits.toNat)

end ReadOnce.Text.Hex
