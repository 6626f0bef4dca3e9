import ReadOnce.Blocks
import ReadOnce.Bytes
import ReadOnce.Text.Wide

/-!
Texts as bytes in an encoding that is not told. It is known by a mark at the start or by where the first bytes
are zero; without such a sign it is UTF-8. Surrogates may stand alone in every encoding.
-/
namespace ReadOnce.Text

inductive Encoding where
  | utf8
  | utf16 (bigEndian : Bool)
  | utf32 (bigEndian : Bool)
deriving DecidableEq, Repr

namespace Encoding

/-- How many bytes a character takes that begins with a byte. -/
def span (byte : UInt8) : Nat :=
  if byte < 0x80 then 1 else if byte < 0xe0 then 2 else if byte < 0xf0 then 3 else 4

/-- The code point that the bytes of one character write. -/
def point? (bytes : Bytes) : Option CodePoint :=
  match bytes with
  | [0xed, second, third] =>
    if 0xa0 ≤ second ∧ second < 0xc0 ∧ 0x80 ≤ third ∧ third < 0xc0 then
      some (.ofNat (0xd000 + (second.toNat - 0x80) * 0x40 + (third.toNat - 0x80)))
    else single bytes
  | _ => single bytes
where
  single (bytes : Bytes) : Option CodePoint :=
    match (Bytes.toText? bytes).map String.toList with
    | some [char] => some (.char char)
    | _ => none

/-- Reads UTF-8 in which surrogates may be written as characters are. -/
def pointsOf (bytes : Bytes) (done : Array CodePoint) : Option WideText :=
  match bytes with
  | [] => some done.toList
  | byte :: rest =>
    match point? ((byte :: rest).take (span byte)) with
    | some point => pointsOf (rest.drop (span byte - 1)) (done.push point)
    | none => none
termination_by bytes.length
decreasing_by simp only [List.length_drop, List.length_cons]; omega

def utf8? (bytes : Bytes) : Option WideText :=
  match Bytes.toText? bytes with
  | some text => some (.ofString text)
  | none => pointsOf bytes #[]

/-- The units of several bytes each, if they fill the text. -/
def units? (size : Nat) (bigEndian : Bool) (bytes : Bytes) : Option (List Nat) :=
  if bytes.length % size = 0 then
    some ((blocks size bytes).map fun unit => Bytes.toNat (if bigEndian then unit else unit.reverse))
  else none

def utf16? (bigEndian : Bool) (bytes : Bytes) : Option WideText :=
  (units? 2 bigEndian bytes).map fun units =>
    (units.foldl (fun text unit => text.addUnit (.ofNat unit)) WideText.Builder.empty).toText

def utf32? (bigEndian : Bool) (bytes : Bytes) : Option WideText :=
  match units? 4 bigEndian bytes with
  | some units => if units.all (· < 0x110000) then some (units.map .ofNat) else none
  | none => none

/-- The text that bytes write in an encoding. -/
def decode? : Encoding → Bytes → Option WideText
  | utf8, bytes => utf8? bytes
  | utf16 bigEndian, bytes => utf16? bigEndian bytes
  | utf32 bigEndian, bytes => utf32? bigEndian bytes

/-- The encoding of bytes without a mark. -/
def byZeros : Bytes → Encoding
  | first :: second :: third :: fourth :: _ =>
    if first = 0 then (if second = 0 then utf32 true else utf16 true)
    else if second = 0 then (if third = 0 ∧ fourth = 0 then utf32 false else utf16 false)
    else utf8
  | [first, second] => if first = 0 then utf16 true else if second = 0 then utf16 false else utf8
  | _ => utf8

/-- The encoding of bytes, and the bytes after the mark. -/
def detect (bytes : Bytes) : Encoding × Bytes :=
  match bytes with
  | 0x00 :: 0x00 :: 0xfe :: 0xff :: rest => (utf32 true, rest)
  | 0xff :: 0xfe :: 0x00 :: 0x00 :: rest => (utf32 false, rest)
  | 0xfe :: 0xff :: rest => (utf16 true, rest)
  | 0xff :: 0xfe :: rest => (utf16 false, rest)
  | 0xef :: 0xbb :: 0xbf :: rest => (utf8, rest)
  | _ => (byZeros bytes, bytes)

end Encoding

/-- The text that bytes write in the encoding they show. -/
def decode? (bytes : Bytes) : Option WideText :=
  let (encoding, rest) := Encoding.detect bytes
  encoding.decode? rest

end ReadOnce.Text
