import ReadOnce.Json.Printer
import ReadOnce.Text.Encoding

/-!
Texts on the wire. What the printer writes as a string has no control characters, and the bytes of such a document,
none of which is zero, are taken for what they are.
-/
namespace ReadOnce

namespace Text

/-- A character that takes one byte. -/
def isAscii (char : Char) : Bool := char.toNat < 0x80

/-- A character that does not control anything. -/
def isVisible (char : Char) : Bool := 0x20 ≤ char.toNat

end Text

namespace Bytes

theorem ofText_eq_flatMap (text : String) : ofText text = text.toList.flatMap String.utf8EncodeChar := by
  rw [ofText, ← String.utf8Encode_toList, List.utf8Encode, List.data_toByteArray]

theorem length_ofText_eq_utf8ByteSize (text : String) : (ofText text).length = text.utf8ByteSize := by
  rw [ofText, Array.length_toList]
  rfl

theorem length_ofText {text : String} (ascii : text.toList.all Text.isAscii = true) :
    (ofText text).length = text.length := by
  have single (char : Char) (member : char ∈ text.toList) : (String.utf8EncodeChar char).length = 1 := by
    rw [String.length_utf8EncodeChar, Char.utf8Size_eq_one_iff, UInt32.le_iff_toNat_le]
    exact Nat.le_of_lt_succ (of_decide_eq_true (List.all_eq_true.mp ascii char member))
  rw [ofText_eq_flatMap, List.length_flatMap, List.map_congr_left single, List.map_const', List.sum_replicate_nat,
    Nat.mul_one, String.length_toList]

private theorem zero_notMem_utf8EncodeChar {char : Char} (nonzero : char.toNat ≠ 0) :
    0 ∉ String.utf8EncodeChar char := by
  have shown : char.val.toNat ≠ 0 := nonzero
  have apart {value : Nat} (big : value % 256 ≠ 0) : (0 : UInt8) ≠ UInt8.ofNat value := by
    intro same
    apply big
    rw [← UInt8.toNat_ofNat', ← same]
    rfl
  rw [String.utf8EncodeChar.eq_1]
  split
  · simp only [List.mem_singleton]
    exact apart (by omega)
  split
  · simp only [List.mem_cons, List.not_mem_nil, or_false, not_or]
    exact ⟨apart (by omega), apart (by omega)⟩
  split
  · simp only [List.mem_cons, List.not_mem_nil, or_false, not_or]
    exact ⟨apart (by omega), apart (by omega), apart (by omega)⟩
  · simp only [List.mem_cons, List.not_mem_nil, or_false, not_or]
    exact ⟨apart (by omega), apart (by omega), apart (by omega), apart (by omega)⟩

theorem zero_notMem_ofText {text : String} (nonzero : ∀ char ∈ text.toList, char.toNat ≠ 0) : 0 ∉ ofText text := by
  intro member
  rw [ofText_eq_flatMap] at member
  obtain ⟨char, inside, zero⟩ := List.mem_flatMap.mp member
  exact zero_notMem_utf8EncodeChar (nonzero char inside) zero

end Bytes

namespace Text

/-- Bytes that do not begin like a mark and hold no zero are in UTF-8. -/
theorem Encoding.detect_utf8 {first : UInt8} {rest : Bytes} (ascii : first < 0x80) (nonzero : 0 ∉ first :: rest) :
    detect (first :: rest) = (utf8, first :: rest) := by
  have zeros : byZeros (first :: rest) = utf8 := by
    simp only [List.mem_cons, not_or] at nonzero
    obtain ⟨head, tail⟩ := nonzero
    match rest with
    | [] => rfl
    | [second] =>
      have next : second ≠ 0 := fun same => tail (by simp [same])
      simp [byZeros, Ne.symm head, next]
    | [second, third] => rfl
    | second :: third :: fourth :: more =>
      have next : second ≠ 0 := fun same => tail (by simp [same])
      simp [byZeros, Ne.symm head, next]
  unfold detect
  split
  case h_6 => rw [zeros]
  case h_1 same =>
    cases same
    exact absurd List.mem_cons_self nonzero
  -- the marks of the other encodings begin outside ASCII
  all_goals
    next same =>
      cases same
      exact absurd ascii (by decide)

/-- A text that begins in ASCII and has no control characters is read from its bytes. -/
theorem decode?_ofText {text : String} {first : Char} {rest : List Char} (begins : text.toList = first :: rest)
    (ascii : first.toNat < 0x80) (visible : text.toList.all isVisible = true) :
    decode? (Bytes.ofText text) = some (.ofString text) := by
  have nonzero : 0 ∉ Bytes.ofText text := Bytes.zero_notMem_ofText fun char member => by
    have big : 0x20 ≤ char.toNat := of_decide_eq_true (List.all_eq_true.mp visible char member)
    omega
  have single : first.utf8Size = 1 := by
    rw [Char.utf8Size_eq_one_iff, UInt32.le_iff_toNat_le]
    exact Nat.le_of_lt_succ ascii
  have bytes := Bytes.ofText_eq_flatMap text
  rw [begins, List.flatMap_cons, String.utf8EncodeChar_eq_singleton single, List.singleton_append] at bytes
  have low : first.val.toUInt8 < 0x80 := by
    rw [UInt8.lt_iff_toNat_lt, UInt32.toNat_toUInt8]
    exact Nat.lt_of_le_of_lt (Nat.mod_le _ _) ascii
  rw [bytes] at nonzero
  have plain := Encoding.detect_utf8 low nonzero
  rw [← bytes] at plain
  simp only [decode?, plain, Encoding.decode?, Encoding.utf8?, Bytes.toText?_ofText]

namespace Hex

theorem value?_digit {value : Nat} (small : value < 16) : value? (digit value) = some value := by
  have table : ∀ index : Fin 16, value? (digit index) = some index.val := by decide
  exact table ⟨value, small⟩

theorem isVisible_digit {value : Nat} (small : value < 16) : isVisible (digit value) = true := by
  have table : ∀ index : Fin 16, isVisible (digit index) = true := by decide
  exact table ⟨value, small⟩

end Hex
end Text

namespace Json

theorem visible_escape (char : Char) : (escape char).all Text.isVisible = true := by
  fun_cases escape char with
  | case8 =>
    have low (place : Nat) : char.toNat / Nat.pow 16 place % 16 < 16 := Nat.mod_lt _ (by decide)
    simp only [Text.Hex.ofNat, List.cons_append, List.nil_append, List.all_cons, Text.Hex.isVisible_digit (low _)]
    rfl
  | case9 _ _ _ _ _ _ _ _ printed =>
    rw [List.all_cons, List.all_nil, Bool.and_true]
    exact decide_eq_true (Nat.not_lt.mp printed)
  | _ => rfl

theorem visible_quote (text : String) : (quote text).toList.all Text.isVisible = true := by
  have inside : (text.toList.flatMap escape).all Text.isVisible = true := by
    rw [List.all_flatMap]
    exact List.all_eq_true.mpr fun char _ => visible_escape char
  rw [quote, String.toList_ofList, quoteChars, List.all_cons, List.all_append, inside]
  rfl

end Json
end ReadOnce
