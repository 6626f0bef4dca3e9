import ReadOnce.Decimal.Reading
import ReadOnce.Json.Basic
import ReadOnce.Text.Blank
import ReadOnce.Text.Numeral
import ReadOnce.Validation

/-!
Numbers and texts as values of settings. A number may be given as such or written as a text. A text that is no
plain numeral may become one once it is tidied: the white space around it, a plus sign, zeros in front, a fraction
of zeros and single underscores do not count.
-/
namespace ReadOnce.Settings.Value

open Validation

def isDigit (char : Char) : Bool := '0' ≤ char && char ≤ '9'

/-- The text without underscores, if none is first or last or next to another. -/
def joined? (chars : List Char) : Option (List Char) :=
  let doubled := (chars.zip (chars.drop 1)).any fun (left, right) => left = '_' && right = '_'
  if chars.head? = some '_' || chars.getLast? = some '_' || doubled then none
  else some (chars.filter (· ≠ '_'))

/-- A sign, if there is one, and the rest. -/
def signed (chars : List Char) : Bool × List Char :=
  match chars with
  | '-' :: rest => (true, rest)
  | '+' :: rest => (false, rest)
  | _ => (false, chars)

/-- The whole number of a plain numeral: digits that do not begin with a zero, or one zero, perhaps after a minus
sign. Too many digits are refused as such, whatever follows them. -/
def plainInteger (chars : List Char) : Except Reason Int :=
  let (negative, unsigned) : Bool × List Char := match chars with
    | '-' :: rest => (true, rest)
    | _ => (false, chars)
  if unsigned = ['0'] then .ok 0
  else
    let digits := unsigned.takeWhile isDigit
    if digits.isEmpty ∨ digits.head? = some '0' then .error .integerText
    else if Text.digitLimit < digits.length then .error .integerSize
    else if digits.length < unsigned.length then .error .integerText
    else
      let size : Int := Decimal.ofDigits digits
      .ok (if negative then -size else size)

/-- Whether zeros and underscores in front of a character leave it in place: a minus sign may follow them too. -/
def leads (char : Char) : Bool := char = '-' || ('1' ≤ char && char ≤ '9')

/-- A numeral without the zeros in front of it and the underscores among them. The last of them stays before a
point, and where nothing follows. -/
def withoutLeadingZeros? : List Char → Option (List Char)
  | [] => none
  | first :: rest =>
    if leads first then some (first :: rest)
    else if first = '0' then
      let zeros := rest.takeWhile fun char => char = '0' || char = '_'
      let last := zeros.getLast?.getD first
      match rest.drop zeros.length with
      | [] => some [last]
      | next :: more =>
        if leads next then some (next :: more)
        else if next = '.' then some (last :: next :: more)
        else none
    else none

/-- A written number without a fraction of nothing but zeros. -/
def withoutZeroFraction (chars : List Char) : List Char :=
  let whole := chars.takeWhile (· ≠ '.')
  match chars.drop whole.length with
  | '.' :: places => if !places.isEmpty && places.all (· = '0') then whole else chars
  | _ => chars

/-- The plain numeral that a tidied text may be. A minus sign may not follow a plus sign, and the zeros behind a
minus sign are zeros in front. -/
def tidied? (chars : List Char) : Option (List Char) := do
  let digits ← match Text.trim Text.isWhiteSpace chars with
    | '+' :: '-' :: _ => none
    | '+' :: rest => withoutLeadingZeros? rest
    | '-' :: rest => (withoutLeadingZeros? rest).map ('-' :: ·)
    | rest => withoutLeadingZeros? rest
  joined? (withoutZeroFraction digits)

/-- The whole number that a text writes. Of one that has to be tidied first it is not said that it is too long. -/
def integerOfText (text : String) : Except Reason Int :=
  match plainInteger text.toList with
  | .error .integerText =>
    match (tidied? text.toList).map plainInteger with
    | some (.ok value) => .ok value
    | _ => .error .integerText
  | result => result

/-- The whole number that a finite number without a fraction is. -/
def integerOfFloat (number : Float) : Except Reason Int :=
  if number.isNaN || number.isInf then .error .notFinite
  else if number.floor != number then .error .fraction
  else if number.abs < 9223372036854775808.0 then .ok number.toInt64.toInt
  else .error .integerSize

def integer : Json → Except Reason Int
  | .int value => .ok value
  | .bool value => .ok (if value then 1 else 0)
  | .float value => integerOfFloat value
  | .str value =>
    match value.toString? with
    | some text => integerOfText text
    | none => .error .integerText
  | _ => .error .integer

/-- The magnitude that unsigned characters write: a word for what is not finite, or digits with a point, an
exponent or both, at least one digit beside the point. -/
def magnitude? (negative : Bool) (chars : List Char) : Option Float :=
  let signedBy (size : Float) : Float := if negative then -size else size
  let small := String.ofList (chars.map Char.toLower)
  if small = "inf" ∨ small = "infinity" then some (signedBy (1.0 / 0.0))
  else if small = "nan" then some (0.0 / 0.0)
  else
    let whole := chars.takeWhile isDigit
    let rest := chars.drop whole.length
    let places := match rest with
      | '.' :: rest => rest.takeWhile isDigit
      | _ => []
    let rest := match rest with
      | '.' :: rest => rest.drop places.length
      | _ => rest
    if whole.isEmpty && places.isEmpty then none
    else
      let finish (power : Int) : Option Float :=
        some (Decimal.toFloat negative (whole ++ places) (power - places.length))
      match rest with
      | [] => finish 0
      | mark :: rest =>
        let (down, digits) := signed rest
        if (mark = 'e' || mark = 'E') && !digits.isEmpty && digits.all isDigit then
          let power : Int := Decimal.ofDigits digits
          finish (if down then -power else power)
        else none

/-- The number that characters write, perhaps with a sign. -/
def signedMagnitude? (chars : List Char) : Option Float :=
  let (negative, unsigned) := signed chars
  magnitude? negative unsigned

/-- The number that a text writes. It may have white space around it or underscores within it, but not both. -/
def numberOfText (text : String) : Except Reason Float :=
  match signedMagnitude? (Text.trim Text.isWhiteSpace text.toList) with
  | some number => .ok number
  | none =>
    match joined? text.toList >>= signedMagnitude? with
    | some number => .ok number
    | none => .error .numberText

/-- The number nearest to a whole one, if it is finite. -/
def numberOfInteger (value : Int) : Except Reason Float :=
  let number := Decimal.toFloat (value < 0) (toString value.natAbs).toList 0
  if number.isInf then .error .number else .ok number

def number : Json → Except Reason Float
  | .int value => numberOfInteger value
  | .bool value => .ok (if value then 1.0 else 0.0)
  | .float value => .ok value
  | .str value =>
    match value.toString? with
    | some text => numberOfText text
    | none => .error .numberText
  | _ => .error .number

def text (value : Json) : Except Reason String :=
  match value.asText? with
  | some text => .ok text
  | none => .error .text

def optionalText : Json → Except Reason (Option String)
  | .null => .ok none
  | value => (text value).map some

end ReadOnce.Settings.Value
