import ReadOnce.Blocks
import ReadOnce.Bytes

/-!
Base64 over the standard alphabet. Three bytes are written as four symbols; reading is strict about the
alphabet and about where padding stands, and lenient in two places: bits of the last symbol that carry no
data are ignored, and any number of pads may follow a whole number of quads.
-/
namespace ReadOnce.Base64

/-- The symbol of a number below sixty-four. -/
def symbol (value : Nat) : Char :=
  if value < 26 then Char.ofNat (65 + value)
  else if value < 52 then Char.ofNat (71 + value)
  else if value < 62 then Char.ofNat (value - 4)
  else if value = 62 then '+' else '/'

def value? (symbol : Char) : Option Nat :=
  if 'A' ≤ symbol ∧ symbol ≤ 'Z' then some (symbol.toNat - 65)
  else if 'a' ≤ symbol ∧ symbol ≤ 'z' then some (symbol.toNat - 71)
  else if '0' ≤ symbol ∧ symbol ≤ '9' then some (symbol.toNat + 4)
  else if symbol = '+' then some 62
  else if symbol = '/' then some 63
  else none

theorem value?_symbol {value : Nat} (small : value < 64) : value? (symbol value) = some value := by
  have table : ∀ index : Fin 64, value? (symbol index) = some index.val := by decide +kernel
  exact table ⟨value, small⟩

/-- The six-bit digits of a number below 2^24. -/
def digits (number : Nat) : List Nat :=
  [number / 262144, number / 4096 % 64, number / 64 % 64, number % 64]

/-- The symbols of one, two or three bytes, with the pads that fill the quad. -/
def quad : Bytes → List Char
  | [first] => ((digits (first.toNat * 65536)).take 2).map symbol ++ ['=', '=']
  | [first, second] => ((digits (first.toNat * 65536 + second.toNat * 256)).take 3).map symbol ++ ['=']
  | first :: second :: third :: _ =>
    (digits (first.toNat * 65536 + second.toNat * 256 + third.toNat)).map symbol
  | [] => []

def encode (bytes : Bytes) : String := String.ofList ((blocks 3 bytes).flatMap quad)

/-- The bytes of two, three or four digits; the bits left over are dropped. -/
def unquad : List Nat → Bytes
  | [first, second] => [UInt8.ofNat (first * 4 + second / 16)]
  | [first, second, third] =>
    [UInt8.ofNat (first * 4 + second / 16), UInt8.ofNat (second % 16 * 16 + third / 4)]
  | first :: second :: third :: fourth :: _ =>
    [UInt8.ofNat (first * 4 + second / 16), UInt8.ofNat (second % 16 * 16 + third / 4),
      UInt8.ofNat (third % 4 * 64 + fourth)]
  | _ => []

/-- Whether this many pads may follow this many symbols. -/
def padsFit (symbols pads : Nat) : Bool :=
  match symbols % 4 with
  | 0 => pads = 0 || symbols > 0
  | 2 => pads = 2
  | 3 => pads = 1
  | _ => false

/-- The bytes that a text writes, read strictly. -/
def decode? (text : String) : Option Bytes :=
  let symbols := text.toList.takeWhile (· ≠ '=')
  let pads := text.toList.dropWhile (· ≠ '=')
  if pads.all (· = '=') && padsFit symbols.length pads.length then
    (symbols.mapM value?).map fun digits => (blocks 4 digits).flatMap unquad
  else none

end ReadOnce.Base64
