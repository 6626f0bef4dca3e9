/-!
Byte strings, and the UTF-8 form of texts. Reading back the bytes of a text gives the text, and bytes
that read as a text are the bytes of that text.
-/
namespace ReadOnce

abbrev Bytes := List UInt8

namespace Bytes

/-- The UTF-8 form of a text. -/
def ofText (text : String) : Bytes := text.toByteArray.data.toList

/-- The text whose UTF-8 form these bytes are, if there is one. -/
def toText? (bytes : Bytes) : Option String := String.fromUTF8? ⟨bytes.toArray⟩

@[simp] theorem toText?_ofText (text : String) : toText? (ofText text) = some text := by
  have valid : (ByteArray.mk (ofText text).toArray).IsValidUTF8 := by
    simpa [ofText] using text.isValidUTF8
  simp only [toText?, String.fromUTF8?, valid, dif_pos]
  rfl

theorem ofText_of_toText? {bytes : Bytes} {text : String} (read : toText? bytes = some text) :
    ofText text = bytes := by
  unfold toText? String.fromUTF8? at read
  split at read
  · cases read; rfl
  · cases read

/-- The bytes of a number that fill a given count of places, the highest first. -/
def ofNat : (places : Nat) → Nat → Bytes
  | 0, _ => []
  | places + 1, value => UInt8.ofNat (value / 256 ^ places) :: ofNat places value

/-- The number that bytes write in base 256, the highest byte first. -/
def toNat (bytes : Bytes) : Nat := bytes.foldl (fun value byte => value * 256 + byte.toNat) 0

end Bytes
end ReadOnce
