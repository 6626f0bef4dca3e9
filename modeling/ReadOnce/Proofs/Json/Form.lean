import ReadOnce.Json.Reader

/-!
All the ways in which a JSON value may be written: blanks between the tokens, escapes within strings, numbers with and
without a fraction or an exponent, and members in any order and under any names, the same name twice included. A form
knows its characters, the value that it stands for, and what a reader has to allow for it.
-/
namespace ReadOnce.Json

structure Blanks where
  chars : List Char
  blank : ∀ char ∈ chars, Lexer.isBlank char = true

def Blanks.none : Blanks := ⟨[], nofun⟩

structure HexDigit where
  char : Char
  value : Nat
  means : Text.Hex.value? char = some value

/-- The four digits of an escape. -/
structure Quad where
  first : HexDigit
  second : HexDigit
  third : HexDigit
  fourth : HexDigit

namespace Quad

def chars (quad : Quad) : List Char := [quad.first.char, quad.second.char, quad.third.char, quad.fourth.char]

def number (quad : Quad) : Nat :=
  ((quad.first.value * 16 + quad.second.value) * 16 + quad.third.value) * 16 + quad.fourth.value

end Quad

/-- A character as it is written in a string. Outside the first plane it takes two escapes, neither of which may stand
alone. -/
inductive Glyph where
  | plain (char : Char) (visible : 0x20 ≤ char.toNat) (unquoted : char ≠ '"') (unescaped : char ≠ '\\')
  | letter (mark char : Char) (means : Lexer.escaped? mark = some char)
  | unit (quad : Quad) (char : Char) (means : quad.number = char.toNat)
  | pair (high low : Quad) (char : Char) (isHigh : 0xD800 ≤ high.number ∧ high.number < 0xDC00)
      (isLow : 0xDC00 ≤ low.number ∧ low.number < 0xE000)
      (means : 0x10000 + (high.number - 0xD800) * 0x400 + (low.number - 0xDC00) = char.toNat)

namespace Glyph

def char : Glyph → Char
  | plain char .. | letter _ char _ | unit _ char _ | pair _ _ char .. => char

def chars : Glyph → List Char
  | plain char .. => [char]
  | letter mark .. => ['\\', mark]
  | unit quad .. => '\\' :: 'u' :: quad.chars
  | pair high low .. => '\\' :: 'u' :: (high.chars ++ '\\' :: 'u' :: low.chars)

end Glyph

/-- A string, character by character. -/
structure Phrase where
  glyphs : List Glyph

namespace Phrase

def chars (phrase : Phrase) : List Char := '"' :: (phrase.glyphs.flatMap Glyph.chars ++ ['"'])

def text (phrase : Phrase) : String := String.ofList (phrase.glyphs.map Glyph.char)

end Phrase

/-- An exponent: its mark, its sign if there is one, and its digits. -/
structure Exponent where
  mark : Char
  sign : Option Char
  digits : List Char
  marked : mark = 'e' ∨ mark = 'E'
  signed : ∀ char ∈ sign, char = '+' ∨ char = '-'
  nonempty : digits ≠ []
  decimal : ∀ digit ∈ digits, Token.isDigit digit = true

namespace Exponent

def chars (exponent : Exponent) : List Char := exponent.mark :: (exponent.sign.toList ++ exponent.digits)

def power (exponent : Exponent) : Int :=
  let size : Int := Decimal.ofDigits exponent.digits
  if exponent.sign = some '-' then -size else size

end Exponent

/-- A number. Its whole part does not begin with a zero unless it is one, and its fraction may have no digits, in which
case it has no point either. -/
structure Number where
  negative : Bool
  whole : List Char
  fraction : List Char
  exponent : Option Exponent
  nonempty : whole ≠ []
  decimal : ∀ digit ∈ whole, Token.isDigit digit = true
  short : whole.head? = some '0' → whole = ['0']
  places : ∀ digit ∈ fraction, Token.isDigit digit = true

namespace Number

def chars (number : Number) : List Char :=
  (if number.negative then ['-'] else []) ++ (number.whole ++
    ((if number.fraction = [] then [] else '.' :: number.fraction) ++ (number.exponent.map Exponent.chars).getD []))

/-- A number that is written without fraction and exponent is whole. -/
def token (number : Number) : Token :=
  match number.exponent with
  | some exponent => .decimal number.negative number.whole number.fraction exponent.power
  | none =>
    if number.fraction = [] then .integer number.negative number.whole
    else .decimal number.negative number.whole number.fraction 0

def value (number : Number) : Json :=
  match number.token with
  | .decimal negative whole fraction power =>
    .float (Decimal.toFloat negative (whole ++ fraction) (power - fraction.length))
  | _ =>
    let size : Int := Decimal.ofDigits number.whole
    .int (if number.negative then -size else size)

/-- Whether the whole part is not too long. -/
def Fits (limits : Limits) (number : Number) : Prop :=
  limits.everyNumber = true ∨ (number.exponent = none ∧ number.fraction = []) →
    number.whole.length ≤ limits.wholeDigits

end Number

/-- A name among the values. The last three are no JSON by the letter, but are read all the same. -/
inductive Word where
  | null
  | true
  | false
  | notNumber
  | infinity
  | negativeInfinity

namespace Word

def chars : Word → List Char
  | null => "null".toList
  | true => "true".toList
  | false => "false".toList
  | notNumber => "NaN".toList
  | infinity => "Infinity".toList
  | negativeInfinity => "-Infinity".toList

def value : Word → Json
  | null => .null
  | true => .bool .true
  | false => .bool .false
  | notNumber => .float (0.0 / 0.0)
  | infinity => .float (1.0 / 0.0)
  | negativeInfinity => .float (-1.0 / 0.0)

end Word

/-- The name of a member, with the blanks around it. -/
structure Heading where
  before : Blanks
  name : Phrase
  after : Blanks

def Heading.chars (heading : Heading) : List Char :=
  heading.before.chars ++ (heading.name.chars ++ (heading.after.chars ++ [':']))

mutual

/-- A written form of a value. -/
inductive Form where
  | word (word : Word)
  | number (number : Number)
  | text (phrase : Phrase)
  | emptyArray (inside : Blanks)
  | array (before : Blanks) (first : Form) (after : Blanks) (more : Items)
  | emptyObject (inside : Blanks)
  | object (heading : Heading) (before : Blanks) (first : Form) (after : Blanks) (more : Members)

/-- What may follow the first item of an array. -/
inductive Items where
  | none
  | item (before : Blanks) (form : Form) (after : Blanks) (more : Items)

/-- What may follow the first member of an object. -/
inductive Members where
  | none
  | member (heading : Heading) (before : Blanks) (form : Form) (after : Blanks) (more : Members)

end

mutual

def Form.chars : Form → List Char
  | .word word => word.chars
  | .number number => number.chars
  | .text phrase => phrase.chars
  | .emptyArray inside => '[' :: (inside.chars ++ [']'])
  | .array before first after more =>
    '[' :: (before.chars ++ (first.chars ++ (after.chars ++ (more.chars ++ [']']))))
  | .emptyObject inside => '\x7b' :: (inside.chars ++ ['\x7d'])
  | .object heading before first after more =>
    '\x7b' :: (heading.chars ++ (before.chars ++ (first.chars ++ (after.chars ++ (more.chars ++ ['\x7d'])))))

def Items.chars : Items → List Char
  | .none => []
  | .item before form after more => ',' :: (before.chars ++ (form.chars ++ (after.chars ++ more.chars)))

def Members.chars : Members → List Char
  | .none => []
  | .member heading before form after more =>
    ',' :: (heading.chars ++ (before.chars ++ (form.chars ++ (after.chars ++ more.chars))))

end

mutual

def Form.value : Form → Json
  | .word word => word.value
  | .number number => number.value
  | .text phrase => Json.text phrase.text
  | .emptyArray _ => .arr []
  | .array _ first _ more => .arr (first.value :: more.values)
  | .emptyObject _ => .obj []
  | .object heading _ first _ more => .obj ((.ofString heading.name.text, first.value) :: more.values)

def Items.values : Items → List Json
  | .none => []
  | .item _ form _ more => form.value :: more.values

def Members.values : Members → List (WideText × Json)
  | .none => []
  | .member heading _ form _ more => (.ofString heading.name.text, form.value) :: more.values

end

mutual

/-- How many containers stand in each other, as a reader counts them. -/
def Form.levels (limits : Limits) : Form → Nat
  | .word _ | .number _ | .text _ => 0
  | .emptyArray _ | .emptyObject _ => if limits.countsEmpty then 1 else 0
  | .array _ first _ more => max (first.levels limits) (more.levels limits) + 1
  | .object _ _ first _ more => max (first.levels limits) (more.levels limits) + 1

def Items.levels (limits : Limits) : Items → Nat
  | .none => 0
  | .item _ form _ more => max (form.levels limits) (more.levels limits)

def Members.levels (limits : Limits) : Members → Nat
  | .none => 0
  | .member _ _ form _ more => max (form.levels limits) (more.levels limits)

end

mutual

/-- Whether no number is too long. -/
def Form.Short (limits : Limits) : Form → Prop
  | .word _ | .text _ | .emptyArray _ | .emptyObject _ => True
  | .number number => number.Fits limits
  | .array _ first _ more => first.Short limits ∧ more.Short limits
  | .object _ _ first _ more => first.Short limits ∧ more.Short limits

def Items.Short (limits : Limits) : Items → Prop
  | .none => True
  | .item _ form _ more => form.Short limits ∧ more.Short limits

def Members.Short (limits : Limits) : Members → Prop
  | .none => True
  | .member _ _ form _ more => form.Short limits ∧ more.Short limits

end

def Members.toList : Members → List (String × Form)
  | .none => []
  | .member heading _ form _ more => (heading.name.text, form) :: more.toList

/-- The members of an object, in the order of the document. -/
def Form.members? : Form → Option (List (String × Form))
  | .emptyObject _ => some []
  | .object heading _ first _ more => some ((heading.name.text, first) :: more.toList)
  | _ => none

/-- The text that a string stands for. -/
def Form.text? : Form → Option String
  | .text phrase => some phrase.text
  | _ => none

structure Document where
  before : Blanks
  root : Form
  after : Blanks

namespace Document

def text (document : Document) : String :=
  String.ofList (document.before.chars ++ (document.root.chars ++ document.after.chars))

/-- The document in UTF-8. -/
def bytes (document : Document) : Bytes := Bytes.ofText document.text

/-- Whether a reader allows it. -/
structure Fits (limits : Limits) (document : Document) : Prop where
  shallow : document.root.levels limits ≤ limits.levels
  short : document.root.Short limits

/-- The text of the last member with a name, if there is such a member and it is a string. -/
def lastText? (document : Document) (name : String) : Option String := do
  let members ← document.root.members?
  let last ← (members.filter (·.1 = name)).getLast?
  last.2.text?

end Document
end ReadOnce.Json
