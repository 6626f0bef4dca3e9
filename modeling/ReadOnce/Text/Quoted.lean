import ReadOnce.Bytes
import ReadOnce.Text.Hex
import ReadOnce.Text.Printable

/-!
Texts shown in quotes within messages. Single quotes are used unless the text holds some and no double ones;
what cannot be shown is written by number, on two, four or eight digits.
-/
namespace ReadOnce.Text

/-- The quote around a text that holds these quotes. -/
private def quoteFor (single double : Bool) : Char := if single && !double then '"' else '\''

private def byNumber (code : Nat) : List Char :=
  if code < 0x100 then ['\\', 'x'] ++ Hex.ofNat 2 code
  else if code < 0x10000 then ['\\', 'u'] ++ Hex.ofNat 4 code
  else ['\\', 'U'] ++ Hex.ofNat 8 code

private def showPoint (quote : Char) (point : CodePoint) : List Char :=
  match point with
  | .char '\\' => ['\\', '\\']
  | .char '\t' => ['\\', 't']
  | .char '\n' => ['\\', 'n']
  | .char '\r' => ['\\', 'r']
  | .char value =>
    if value = quote then ['\\', quote]
    else if isPrintable point then [value]
    else byNumber value.toNat
  | .surrogate _ => byNumber point.toNat

def quoted (text : WideText) : List Char :=
  let quote := quoteFor (text.contains (.char '\'')) (text.contains (.char '"'))
  quote :: (text.flatMap (showPoint quote) ++ [quote])

private def showByte (quote : Char) (byte : UInt8) : List Char :=
  let char := Char.ofNat byte.toNat
  if byte = 0x5c then ['\\', '\\']
  else if byte = 0x09 then ['\\', 't']
  else if byte = 0x0a then ['\\', 'n']
  else if byte = 0x0d then ['\\', 'r']
  else if char = quote then ['\\', quote]
  else if 0x20 ≤ byte ∧ byte < 0x7f then [char]
  else byNumber byte.toNat

/-- Bytes shown as text, marked by a letter in front. -/
def quotedBytes (bytes : Bytes) : List Char :=
  let quote := quoteFor (bytes.contains 0x27) (bytes.contains 0x22)
  'b' :: quote :: (bytes.flatMap (showByte quote) ++ [quote])

end ReadOnce.Text
