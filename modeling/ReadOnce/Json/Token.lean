import ReadOnce.Decimal.Reading
import ReadOnce.Json.Basic
import ReadOnce.Text.Hex

/-!
The tokens of a JSON text. A text is read character by character; what stands outside strings and is neither
blank nor punctuation forms a bare word, which is a name such as `true` or begins with a number.
-/
namespace ReadOnce.Json

inductive Token where
  | beginArray
  | endArray
  | beginObject
  | endObject
  | comma
  | colon
  | word (value : Json)
  | integer (negative : Bool) (digits : List Char)
  | decimal (negative : Bool) (whole fraction : List Char) (exponent : Int)
  | text (value : WideText)
  | junk

namespace Token

def isDigit (char : Char) : Bool := '0' ≤ char && char ≤ '9'

/-- Splits off a fraction, which needs a digit. -/
def fraction (chars : List Char) : List Char × List Char :=
  match chars with
  | '.' :: rest =>
    match rest.takeWhile isDigit with
    | [] => ([], chars)
    | digits => (digits, rest.drop digits.length)
  | _ => ([], chars)

/-- Splits off an exponent, which needs a digit. -/
def exponent (chars : List Char) : Option Int × List Char :=
  match chars with
  | mark :: rest =>
    if mark = 'e' ∨ mark = 'E' then
      let signed := rest.head? = some '+' ∨ rest.head? = some '-'
      let body := if signed then rest.drop 1 else rest
      match body.takeWhile isDigit with
      | [] => (none, chars)
      | digits =>
        let size : Int := Decimal.ofDigits digits
        (some (if rest.head? = some '-' then -size else size), body.drop digits.length)
    else (none, chars)
  | [] => (none, chars)

/-- The longest number that a bare word begins with, and what is left of the word. -/
def number? (chars : List Char) : Option (Token × List Char) :=
  let negative := chars.head? = some '-'
  let body := if negative then chars.drop 1 else chars
  let whole := if body.head? = some '0' then ['0'] else body.takeWhile isDigit
  if whole.isEmpty then none
  else
    let (places, rest) := fraction (body.drop whole.length)
    match exponent rest with
    | (some power, rest) => some (decimal negative whole places power, rest)
    | (none, rest) =>
      if places.isEmpty then some (integer negative whole, rest)
      else some (decimal negative whole places 0, rest)

/-- The tokens of a bare word; what follows a number in it is junk. -/
def ofBare (chars : List Char) : List Token :=
  match String.ofList chars with
  | "null" => [word .null]
  | "true" => [word (.bool true)]
  | "false" => [word (.bool false)]
  | "NaN" => [word (.float (0.0 / 0.0))]
  | "Infinity" => [word (.float (1.0 / 0.0))]
  | "-Infinity" => [word (.float (-1.0 / 0.0))]
  | _ =>
    match number? chars with
    | some (token, []) => [token]
    | some (token, _) => [token, junk]
    | none => [junk]

end Token

/-- Where in a text its reader stands: between tokens, in a bare word, in a string, or in an escape within
one. After a character that no string may hold nothing more is read. -/
inductive Mode where
  | between
  | bare (chars : Array Char)
  | string (text : WideText.Builder)
  | escape (text : WideText.Builder)
  | hex (text : WideText.Builder) (digits : Nat) (value : Nat)
  | broken

structure Lexer where
  mode : Mode
  tokens : Array Token

namespace Lexer

def start : Lexer := ⟨.between, #[]⟩

def punctuation? : Char → Option Token
  | '[' => some .beginArray
  | ']' => some .endArray
  | '\x7b' => some .beginObject
  | '\x7d' => some .endObject
  | ',' => some .comma
  | ':' => some .colon
  | _ => none

def isBlank (char : Char) : Bool := char = ' ' || char = '\t' || char = '\n' || char = '\r'

/-- The character that a one-letter escape writes. -/
def escaped? : Char → Option Char
  | '"' => some '"'
  | '\\' => some '\\'
  | '/' => some '/'
  | 'b' => some '\x08'
  | 'f' => some '\x0c'
  | 'n' => some '\n'
  | 'r' => some '\r'
  | 't' => some '\t'
  | _ => none

/-- One character outside strings, after the bare word before it. -/
def outside (tokens : Array Token) (char : Char) : Lexer :=
  if isBlank char then ⟨.between, tokens⟩
  else if char = '"' then ⟨.string .empty, tokens⟩
  else
    match punctuation? char with
    | some token => ⟨.between, tokens.push token⟩
    | none => ⟨.bare #[char], tokens⟩

def endsBare (char : Char) : Bool :=
  isBlank char || char = '"' || (punctuation? char).isSome

/-- One more code point. A surrogate outside a string belongs to no token. -/
def step (lexer : Lexer) (point : CodePoint) : Lexer :=
  let tokens := lexer.tokens
  match lexer.mode with
  | .between => outside tokens (point.toChar?.getD '\ufffd')
  | .bare chars =>
    let char := point.toChar?.getD '\ufffd'
    if endsBare char then outside (tokens ++ (Token.ofBare chars.toList).toArray) char
    else ⟨.bare (chars.push char), tokens⟩
  | .string text =>
    if point = .char '"' then ⟨.between, tokens.push (.text text.toText)⟩
    else if point = .char '\\' then ⟨.escape text, tokens⟩
    else if point.toNat < 0x20 then ⟨.broken, tokens.push .junk⟩
    else ⟨.string (text.add point), tokens⟩
  | .escape text =>
    if point = .char 'u' then ⟨.hex text 0 0, tokens⟩
    else
      match point.toChar?.bind escaped? with
      | some char => ⟨.string (text.add (.char char)), tokens⟩
      | none => ⟨.broken, tokens.push .junk⟩
  | .hex text digits value =>
    match point.toChar?.bind Text.Hex.value? with
    | some digit =>
      if digits < 3 then ⟨.hex text (digits + 1) (value * 16 + digit), tokens⟩
      else ⟨.string (text.addUnit (.ofNat (value * 16 + digit))), tokens⟩
    | none => ⟨.broken, tokens.push .junk⟩
  | .broken => lexer

/-- The tokens read when the text ends. -/
def finish (lexer : Lexer) : List Token :=
  match lexer.mode with
  | .between | .broken => lexer.tokens.toList
  | .bare chars => (lexer.tokens ++ (Token.ofBare chars.toList).toArray).toList
  | _ => (lexer.tokens.push .junk).toList

end Lexer

/-- The tokens of a text, with a last token of junk if the text breaks off in one. -/
def Token.ofText (text : WideText) : List Token := (text.foldl Lexer.step Lexer.start).finish

end ReadOnce.Json
