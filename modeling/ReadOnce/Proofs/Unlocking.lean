import ReadOnce.Proofs.Cipher.Permutation
import ReadOnce.Proofs.Envelope

/-!
What opens is what locking produces. An envelope gives a text under a key exactly if locking that text under that key,
after the initial block that the envelope begins with, gives the bytes of the envelope; everything else is refused, for
its form whatever the key, or else for its key.
-/
namespace ReadOnce

/-- A source that answers every call with the same bytes. -/
def RandomSource.fixed (value : Bytes) : RandomSource Unit := ⟨fun _ _ => (.bytes value, ())⟩

namespace Envelope

/-- The bytes that locking puts into an envelope where the initial block is drawn as given. -/
def sealed? (initial text key : Bytes) : Option Bytes :=
  match (lock (.fixed initial) text key ()).1 with
  | .ok envelope => Base64.decode? envelope
  | .error _ => none

/-- The envelope is what locking the text under the key gives, after the initial block it begins with. -/
def Holds (envelope : String) (key text : Bytes) : Prop :=
  key.length = keyLength ∧
    ∃ raw, Base64.decode? envelope = some raw ∧ sealed? (raw.take initialLength) text key = some raw

/-- The envelope is not base64, or what it writes is not an initial block with whole blocks after it, at least one. -/
def Malformed (envelope : String) : Prop :=
  ∀ raw, Base64.decode? envelope = some raw →
    raw.length < initialLength + 1 ∨ (raw.length - initialLength) % 16 ≠ 0

variable {envelope : String} {raw initial text : Bytes}

/-- Locking after a block that is not of full size draws no initial block and gives nothing. -/
theorem sealed?_eq {key : Bytes} {schedule : Cipher.Schedule} (scheduled : Cipher.Schedule.ofKey key = .ok schedule) :
    sealed? initial text key =
      if initial.length = initialLength then some (initial ++ Cipher.encryptText schedule initial text) else none := by
  unfold sealed? lock RandomSource.bytes RandomSource.fixed
  by_cases full : initial.length = initialLength
  · simp only [if_pos full, scheduled, decode?_lockWith]
  · simp only [if_neg full]

/-- What opens is what base64 writes, however it is written. -/
theorem unlock_congr {other : String} (same : Base64.decode? envelope = Base64.decode? other) (key : Bytes) :
    unlock envelope key = unlock other key := by
  simp only [unlock, same]

/-- A form that no key opens is told before the key is looked at. -/
theorem unlock_malformed (malformed : Malformed envelope) (key : Bytes) :
    ∃ fault, unlock envelope key = .error fault ∧ fault.isMalformed = true := by
  unfold unlock
  cases decoded : Base64.decode? envelope with
  | none => exact ⟨.notBase64, rfl, rfl⟩
  | some raw =>
    by_cases short : raw.length < initialLength + 1
    · exact ⟨.tooShort, by simp only [if_pos short]; rfl, rfl⟩
    · have ragged : (raw.drop initialLength).length % 16 ≠ 0 := by
        rw [List.length_drop]
        exact (malformed raw decoded).resolve_left short
      exact ⟨.notInBlocks, by simp only [if_neg short, if_pos ragged]; rfl, rfl⟩

/-- An envelope of the right form, as opening takes it apart: the key has to fit, and then the padding decides. -/
theorem unlock_formed (decoded : Base64.decode? envelope = some raw) (long : initialLength + 1 ≤ raw.length)
    (whole : (raw.drop initialLength).length % 16 = 0) (key : Bytes) :
    (key.length ≠ keyLength ∧ unlock envelope key = .error .keySize) ∨
      ∃ schedule, key.length = keyLength ∧ Cipher.Schedule.ofKey key = .ok schedule ∧
        unlock envelope key =
          match Cipher.unpad? (Cipher.decryptBlocks schedule (raw.take initialLength) (raw.drop initialLength)) with
          | some text => .ok text
          | none => .error .badPadding := by
  have enough : ¬ raw.length < initialLength + 1 := Nat.not_lt.mpr long
  have aligned : ¬ (raw.drop initialLength).length % 16 ≠ 0 := not_not_intro whole
  by_cases fits : key.length = keyLength
  · right
    obtain ⟨schedule, scheduled⟩ := exists_schedule fits
    refine ⟨schedule, fits, scheduled, ?_⟩
    simp only [unlock, decoded, if_neg enough, if_neg aligned, if_neg (not_not_intro fits), scheduled]
    rfl
  · left
    refine ⟨fits, ?_⟩
    simp only [unlock, decoded, if_neg enough, if_neg aligned, if_pos fits]
    rfl

theorem formed_of_not_malformed (formed : ¬ Malformed envelope) :
    ∃ raw, Base64.decode? envelope = some raw ∧ initialLength + 1 ≤ raw.length ∧
      (raw.drop initialLength).length % 16 = 0 := by
  unfold Malformed at formed
  push Not at formed
  obtain ⟨raw, decoded, long, whole⟩ := formed
  exact ⟨raw, decoded, long, by rw [List.length_drop]; exact whole⟩

variable {key : Bytes}

theorem Holds.formed (holds : Holds envelope key text) : ¬ Malformed envelope := by
  obtain ⟨fits, raw, decoded, locked⟩ := holds
  obtain ⟨schedule, scheduled⟩ := exists_schedule fits
  rw [sealed?_eq scheduled] at locked
  split at locked
  · next full =>
    -- a padded text fills at least one block
    have size := congrArg List.length (Option.some.inj locked)
    rw [List.length_append, full, Cipher.length_encryptText, initialLength] at size
    intro malformed
    rcases malformed raw decoded with short | ragged <;> simp only [initialLength] at * <;> omega
  · cases locked

/-- An envelope of the right form gives a text exactly if it holds it. -/
theorem unlock_eq_ok_iff_of_formed (decoded : Base64.decode? envelope = some raw)
    (long : initialLength + 1 ≤ raw.length) (whole : (raw.drop initialLength).length % 16 = 0) :
    unlock envelope key = .ok text ↔ Holds envelope key text := by
  have front : (raw.take initialLength).length = initialLength := List.length_take_of_le (Nat.le_of_succ_le long)
  rcases unlock_formed decoded long whole key with ⟨unfit, refused⟩ | ⟨schedule, fits, scheduled, opened⟩
  · simp only [refused, Holds, unfit, false_and, reduceCtorEq]
  · have parts : sealed? (raw.take initialLength) text key = some raw ↔
        raw.drop initialLength = Cipher.encryptText schedule (raw.take initialLength) text := by
      rw [sealed?_eq scheduled, if_pos front, Option.some.injEq]
      constructor
      · intro same
        rw [← same, List.drop_left' front, List.take_left' front]
      · intro same
        rw [← same, List.take_append_drop]
    rw [← Cipher.unpad?_decryptBlocks_eq_some_iff schedule _ text whole] at parts
    simp only [Holds, fits, true_and, decoded, Option.some.injEq, exists_eq_left', parts, opened]
    split
    · next found => simp [found]
    · next found => simp [found]

theorem unlock_eq_ok_iff : unlock envelope key = .ok text ↔ Holds envelope key text := by
  by_cases malformed : Malformed envelope
  · obtain ⟨fault, refused, _⟩ := unlock_malformed malformed key
    rw [refused]
    exact ⟨nofun, fun holds => absurd malformed holds.formed⟩
  · obtain ⟨raw, decoded, long, whole⟩ := formed_of_not_malformed malformed
    exact unlock_eq_ok_iff_of_formed decoded long whole

/-- Of an envelope that has the right form, it is the key or the padding that is told. -/
theorem unlock_fault (formed : ¬ Malformed envelope) {fault : UnlockFault}
    (refused : unlock envelope key = .error fault) : fault.isMalformed = false := by
  obtain ⟨raw, decoded, long, whole⟩ := formed_of_not_malformed formed
  rcases unlock_formed decoded long whole key with ⟨_, same⟩ | ⟨schedule, _, _, same⟩
  · rw [same] at refused
    cases refused
    rfl
  · rw [same] at refused
    split at refused
    · cases refused
    · cases refused
      rfl

/-- The initial block and the text fix all bytes of an envelope that holds the text under a key. -/
theorem Holds.raw_eq {other : String} {otherRaw : Bytes} (first : Holds envelope key text)
    (second : Holds other key text) (decoded : Base64.decode? envelope = some raw)
    (otherDecoded : Base64.decode? other = some otherRaw)
    (initial : raw.take initialLength = otherRaw.take initialLength) : raw = otherRaw := by
  obtain ⟨_, found, here, locked⟩ := first
  obtain ⟨_, otherFound, there, otherLocked⟩ := second
  cases decoded.symm.trans here
  cases otherDecoded.symm.trans there
  rw [initial] at locked
  exact Option.some.inj (locked.symm.trans otherLocked)

/-- An envelope opens to a text exactly if it is what locking gives for that text. Whatever else it is, it is refused:
for its form exactly if no key would open it, and for its key or padding otherwise. So the text and the initial block
fix the bytes of an envelope. -/
theorem unlock_image (envelope : String) (key : Bytes) :
    (∀ text, unlock envelope key = .ok text ↔ Holds envelope key text) ∧
    ((∃ fault, unlock envelope key = .error fault ∧ fault.isMalformed = true) ↔ Malformed envelope) ∧
    ((∃ fault, unlock envelope key = .error fault ∧ fault.isMalformed = false) ↔
      ¬ Malformed envelope ∧ ∀ text, ¬ Holds envelope key text) ∧
    ∀ (other : String) (text raw otherRaw : Bytes),
      unlock envelope key = .ok text → unlock other key = .ok text →
      Base64.decode? envelope = some raw → Base64.decode? other = some otherRaw →
      raw.take initialLength = otherRaw.take initialLength → raw = otherRaw := by
  refine ⟨fun text => unlock_eq_ok_iff, ⟨?_, fun malformed => unlock_malformed malformed key⟩, ⟨?_, ?_⟩, ?_⟩
  · rintro ⟨fault, refused, form⟩
    by_contra formed
    rw [unlock_fault formed refused] at form
    cases form
  · rintro ⟨fault, refused, form⟩
    refine ⟨fun malformed => ?_, fun text holds => ?_⟩
    · obtain ⟨other, same, malformed⟩ := unlock_malformed malformed key
      cases refused.symm.trans same
      rw [form] at malformed
      cases malformed
    · rw [unlock_eq_ok_iff.mpr holds] at refused
      cases refused
  · rintro ⟨formed, empty⟩
    cases result : unlock envelope key with
    | ok text => exact absurd (unlock_eq_ok_iff.mp result) (empty text)
    | error fault => exact ⟨fault, rfl, unlock_fault formed result⟩
  · intro other text raw otherRaw first second decoded otherDecoded initial
    exact (unlock_eq_ok_iff.mp first).raw_eq (unlock_eq_ok_iff.mp second) decoded otherDecoded initial

theorem exists_padded (fits : key.length = 32) (full : text.length = 16) :
    ∃ envelope raw, unlock envelope key = .ok text ∧ Base64.decode? envelope = some raw ∧
      Base64.decode? (envelope ++ String.ofList (List.replicate 1 '=')) = some raw := by
  obtain ⟨schedule, scheduled⟩ := exists_schedule fits
  have size : (text ++ Cipher.encryptText schedule text text).length = 48 := by
    rw [List.length_append, Cipher.length_encryptText, full]
  have nonempty : text ++ Cipher.encryptText schedule text text ≠ [] := List.length_pos_iff.mp (by omega)
  have padded := Base64.decode?_encode_pads nonempty (by rw [size]) 1
  exact ⟨_, _, unlock_lockWith text fits scheduled full, decode?_lockWith schedule text text, padded⟩

/-- Two texts for the same bytes: one of them has a pad too many. -/
theorem unlock_image_padded :
    ∃ envelope other : String, ∃ raw otherRaw : Bytes,
      let key : Bytes := List.replicate 32 0xa5
      let text : Bytes := List.replicate 16 0x61
      envelope ≠ other ∧ unlock envelope key = .ok text ∧ unlock other key = .ok text ∧
        Base64.decode? envelope = some raw ∧ Base64.decode? other = some otherRaw ∧
        raw.take initialLength = otherRaw.take initialLength ∧ Holds envelope key text ∧ raw = otherRaw := by
  obtain ⟨envelope, raw, opened, decoded, padded⟩ :=
    exists_padded (@List.length_replicate _ 32 (0xa5 : UInt8)) (@List.length_replicate _ 16 (0x61 : UInt8))
  have reopened := (unlock_congr (padded.trans decoded.symm) (List.replicate 32 0xa5)).trans opened
  obtain ⟨image, _, _, same⟩ := unlock_image envelope (List.replicate 32 0xa5)
  refine ⟨envelope, _, raw, raw, ?_, opened, reopened, decoded, padded, rfl, (image _).mp opened,
    same _ _ raw raw opened reopened decoded padded rfl⟩
  intro equal
  have longer := congrArg String.length equal
  rw [String.length_append] at longer
  simp at longer

end Envelope
end ReadOnce
