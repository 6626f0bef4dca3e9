import ReadOnce.Text.Blank
import ReadOnce.Text.Digit
import ReadOnce.Text.Quoted

/-!
Whole numbers as texts. A numeral has an optional sign and decimal digits of any script, a single underscore
being allowed between two of them, and blanks around it. More than 4300 digits are neither read nor written.
-/
namespace ReadOnce.Text

/-- Why a text gives no number, or a number no text. -/
inductive NumeralFault where
  | invalid (shown : String)
  | tooManyDigits (count : Nat)
  | tooLarge
deriving DecidableEq, Repr

def NumeralFault.message : NumeralFault → String
  | invalid shown => "invalid literal for int() with base 10: " ++ shown
  | tooManyDigits count =>
    "Exceeds the limit (4300 digits) for integer string conversion: value has " ++ toString count ++
      " digits; use sys.set_int_max_str_digits() to increase the limit"
  | tooLarge =>
    "Exceeds the limit (4300 digits) for integer string conversion; " ++
      "use sys.set_int_max_str_digits() to increase the limit"

/-- How many digits a number may have. -/
def digitLimit : Nat := 4300

/-- The first number with more digits than that. -/
def numeralLimit : Nat := Nat.pow 10 digitLimit

namespace Numeral

/-- How much of a text is shown in a fault. -/
def shownLimit : Nat := 200

/-- A number as a text. -/
def write (value : Int) : Except NumeralFault String :=
  if value.natAbs < numeralLimit then .ok (toString value) else .error .tooLarge

/-- A character of a numeral once scripts and blanks are put aside: in a text that is not all ASCII, digits
and white space outside ASCII count as their ASCII forms. -/
def plain (ascii : Bool) (char : Char) : Char :=
  if ascii || char.toNat < 0x80 then char
  else
    match digitValue? char with
    | some value => Char.ofNat (48 + value)
    | none => if isWhiteSpace char then ' ' else '?'

def isPlainBlank (char : Char) : Bool :=
  char = ' ' || (0x09 ≤ char.toNat && char.toNat ≤ 0x0d)

def isPlainDigit (char : Char) : Bool := '0' ≤ char && char ≤ '9'

/-- Whether each underscore stands between two digits, from a place where the last character is known. -/
def underscoresFit : (afterDigit : Bool) → List Char → Bool
  | afterDigit, [] => afterDigit
  | afterDigit, char :: rest =>
    if char = '_' then afterDigit && underscoresFit false rest else underscoresFit true rest

/-- The value of a numeral in plain characters; `shown` is the whole text, for the fault. -/
def ofPlain (chars : List Char) (shown : Unit → List Char) : Except NumeralFault Int :=
  let invalid : Except NumeralFault Int := .error (.invalid (String.ofList ((shown ()).take shownLimit)))
  let body := chars.dropWhile isPlainBlank
  let negative := body.head? = some '-'
  let unsigned := if negative ∨ body.head? = some '+' then body.drop 1 else body
  let run := unsigned.takeWhile fun char => isPlainDigit char || char = '_'
  let digits := run.filter isPlainDigit
  if !underscoresFit false run then invalid
  else if digitLimit < digits.length then .error (.tooManyDigits digits.length)
  else if !(unsigned.drop run.length).all isPlainBlank then invalid
  else
    let size : Int := digits.foldl (fun value digit => value * 10 + (digit.toNat - 48)) 0
    .ok (if negative then -size else size)

/-- The number that a text writes. -/
def parse (text : String) : Except NumeralFault Int :=
  let chars := text.toList
  let ascii := chars.all fun char => char.toNat < 0x80
  ofPlain (chars.map (plain ascii)) fun _ => quoted (WideText.ofString text)

/-- The number that bytes write in ASCII. A fault shows the first of them only. -/
def parseBytes (bytes : Bytes) : Except NumeralFault Int :=
  ofPlain (bytes.map fun byte => Char.ofNat byte.toNat) fun _ => quotedBytes (bytes.take shownLimit)

end Numeral
end ReadOnce.Text
