import ReadOnce.Decimal.Layout
import ReadOnce.Json.Basic
import ReadOnce.Text.Hex

/-!
Writing JSON values without blanks. Characters outside ASCII stay as they are; quotes, backslashes and
control characters are escaped, and so is a surrogate that stands alone.
-/
namespace ReadOnce.Json

/-- A character inside a string. -/
def escape : Char → List Char
  | '"' => ['\\', '"']
  | '\\' => ['\\', '\\']
  | '\x08' => ['\\', 'b']
  | '\x0c' => ['\\', 'f']
  | '\n' => ['\\', 'n']
  | '\r' => ['\\', 'r']
  | '\t' => ['\\', 't']
  | char => if char.toNat < 0x20 then ['\\', 'u'] ++ Text.Hex.ofNat 4 char.toNat else [char]

def quoteChars (chars : List Char) : List Char := '"' :: (chars.flatMap escape ++ ['"'])

/-- A text as a JSON string. -/
def quote (text : String) : String := String.ofList (quoteChars text.toList)

def escapePoint : CodePoint → List Char
  | .char value => escape value
  | .surrogate offset => ['\\', 'u'] ++ Text.Hex.ofNat 4 (0xD800 + offset.val)

def quoteWide (text : WideText) : List Char := '"' :: (text.flatMap escapePoint ++ ['"'])

mutual

def chars : Json → List Char
  | null => "null".toList
  | bool value => (if value then "true" else "false").toList
  | int value => (toString value).toList
  | float value => (Decimal.document.write value).toList
  | str value => quoteWide value
  | arr items => '[' :: (itemChars items ++ [']'])
  | obj members => '\x7b' :: (memberChars members ++ ['\x7d'])

def itemChars : List Json → List Char
  | [] => []
  | [item] => chars item
  | item :: rest => chars item ++ ',' :: itemChars rest

def memberChars : List (WideText × Json) → List Char
  | [] => []
  | [(name, value)] => quoteWide name ++ ':' :: chars value
  | (name, value) :: rest => quoteWide name ++ ':' :: (chars value ++ ',' :: memberChars rest)

end

def write (value : Json) : String := String.ofList value.chars

end ReadOnce.Json
