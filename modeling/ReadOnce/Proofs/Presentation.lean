import ReadOnce.Message.Check
import ReadOnce.Proofs.Base64.Reading

/-!
What passes for an identifier: an id of at most a hundred characters that is not blank, and a key in the one form that
keys of full length take. The length of the key and the quirks of base64 leave no other form.
-/
namespace ReadOnce

namespace Text

theorem isBlank_eq_false_iff {text : String} :
    isBlank text = false ↔ ∃ char ∈ text.toList, isBlankChar char = false := by
  simp only [isBlank, List.all_eq_false, Bool.not_eq_true]

end Text

namespace Base64

/-- Forty-three symbols of the alphabet and one pad. -/
def WritesKey (text : String) : Prop :=
  ∃ symbols : List Char, symbols.length = 43 ∧ (∀ symbol ∈ symbols, symbol ∈ alphabet) ∧ text.toList = symbols ++ ['=']

variable {text : String}

theorem WritesKey.length_eq (writes : WritesKey text) : text.length = 44 := by
  obtain ⟨symbols, many, _, written⟩ := writes
  rw [← String.length_toList, written, List.length_append, many]
  rfl

/-- No other number of symbols gives the bytes of a key, and no other number of pads fits them. -/
theorem writesKey_iff :
    WritesKey text ↔ ∃ bytes, decode? text = some bytes ∧ bytes.length = Envelope.keyLength := by
  rw [decode?_iff]
  constructor
  · rintro ⟨symbols, many, known, written⟩
    refine ⟨symbols, 1, written, known, ?_, ?_⟩ <;> rw [many] <;> rfl
  · rintro ⟨symbols, pads, written, known, fit, size⟩
    have many : symbols.length = 43 := by
      rw [Envelope.keyLength] at size
      -- forty-two symbols are a byte short, and forty-four give one too many
      omega
    have single : pads = 1 := by
      rw [many] at fit
      exact of_decide_eq_true fit
    subst single
    exact ⟨symbols, many, known, written⟩

theorem WritesKey.isBlank_eq_false (writes : WritesKey text) : Text.isBlank text = false := by
  obtain ⟨symbols, _, _, written⟩ := writes
  refine Text.isBlank_eq_false_iff.mpr ⟨'=', ?_, rfl⟩
  rw [written]
  exact List.mem_append_right symbols List.mem_cons_self

end Base64

namespace Message

variable {id key : String}

theorem keyOf_eq_ok_iff {bytes : Bytes} :
    keyOf id key = .ok bytes ↔
      (Text.isBlank id = false ∧ id.length ≤ idLimit) ∧ (Text.isBlank key = false ∧ key.length ≤ keyLimit) ∧
        Base64.decode? key = some bytes ∧ bytes.length = Envelope.keyLength := by
  unfold keyOf
  split
  · next blank => simp [blank]
  · next visible =>
    split
    · next long => simp [Nat.not_le.mpr long]
    · next short =>
      split
      · next blank => simp [blank]
      · next shown =>
        split
        · next long => simp [Nat.not_le.mpr long]
        · next brief =>
          simp only [visible, Nat.not_lt.mp short, shown, Nat.not_lt.mp brief, and_self, true_and]
          cases Base64.decode? key with
          | none => simp
          | some found =>
            rw [Option.some.injEq]
            dsimp only
            split
            · next fits =>
              rw [Except.ok.injEq, and_iff_left_of_imp]
              rintro rfl
              exact fits
            · next unfit =>
              refine iff_of_false nofun ?_
              rintro ⟨rfl, fits⟩
              exact unfit fits

/-- What passes is an id with a visible character and not too many of them, and a key of full length in its only form;
then the key can be read. Reading a key undoes writing it, whatever its length. -/
theorem exists_keyOf_iff (id key : String) :
    ((∃ bytes, keyOf id key = .ok bytes) ↔
      (id.length ≤ 100 ∧ ∃ char ∈ id.toList, Text.isBlankChar char = false) ∧ Base64.WritesKey key) ∧
    (∀ bytes, keyOf id key = .ok bytes → Base64.decode? key = some bytes ∧ bytes.length = 32) ∧
    ∀ bytes, Base64.decode? (Base64.encode bytes) = some bytes := by
  refine ⟨?_, fun bytes accepted => (keyOf_eq_ok_iff.mp accepted).2.2, Base64.decode?_encode⟩
  constructor
  · rintro ⟨bytes, accepted⟩
    obtain ⟨⟨visible, short⟩, _, read⟩ := keyOf_eq_ok_iff.mp accepted
    exact ⟨⟨short, Text.isBlank_eq_false_iff.mp visible⟩, Base64.writesKey_iff.mpr ⟨bytes, read⟩⟩
  · rintro ⟨⟨short, visible⟩, writes⟩
    obtain ⟨bytes, read⟩ := Base64.writesKey_iff.mp writes
    have brief : key.length ≤ keyLimit := by
      rw [writes.length_eq]
      decide
    exact ⟨bytes, keyOf_eq_ok_iff.mpr ⟨⟨Text.isBlank_eq_false_iff.mpr visible, short⟩,
      ⟨writes.isBlank_eq_false, brief⟩, read⟩⟩

/-- A key passes whose last symbol has bits that no key has when it is written. -/
theorem exists_keyOf_iff_stray :
    let key := String.ofList (List.replicate 43 '/' ++ ['='])
    ∃ bytes, keyOf " m" key = .ok bytes ∧ Base64.decode? key = some bytes ∧ bytes.length = 32 ∧
      Base64.encode bytes ≠ key := by
  intro key
  obtain ⟨accepts, reads, _⟩ := exists_keyOf_iff " m" key
  have known : ∀ symbol ∈ List.replicate 43 '/', symbol ∈ Base64.alphabet := by
    intro symbol member
    rw [List.eq_of_mem_replicate member]
    decide +kernel
  have writes : Base64.WritesKey key := ⟨List.replicate 43 '/', rfl, known, String.toList_ofList⟩
  obtain ⟨bytes, accepted⟩ := accepts.mpr ⟨⟨by decide, 'm', by decide, rfl⟩, writes⟩
  have stray : ∀ bytes ∈ Base64.decode? key, Base64.encode bytes ≠ key := by decide +kernel
  obtain ⟨read, size⟩ := reads bytes accepted
  exact ⟨bytes, accepted, read, size, stray bytes read⟩

end Message
end ReadOnce
