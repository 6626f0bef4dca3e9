import Mathlib.Data.Finite.Prod
import ReadOnce.Proofs.Cipher.Chaining

/-!
The cipher from the other side: every block is the encryption of one block, every chain of blocks is the chain of one
text, and padding that is taken off is the padding that belongs there. So what decrypts to a text is exactly what the
text encrypts to.
-/
namespace ReadOnce.Cipher

/-- There are finitely many blocks: each of them is made of sixteen bytes. -/
theorem Block.finite : Finite Block := by
  have bytes : Finite UInt8 := Finite.of_injective UInt8.toFin fun _ _ => UInt8.toFin_inj.mp
  refine Finite.of_surjective (fun places : Fin 16 → UInt8 => Block.ofBytes (List.ofFn places)) fun block => ?_
  exact ⟨fun place => block.toBytes.get place, congrArg Block.ofBytes (List.ofFn_get block.toBytes)⟩

namespace Schedule

/-- Encrypting undoes decrypting: it keeps blocks apart, and there are finitely many of them. -/
theorem encrypt_decrypt (schedule : Schedule) (block : Block) :
    schedule.encrypt (schedule.decrypt block) = block := by
  have undone : Function.LeftInverse schedule.decrypt schedule.encrypt := schedule.decrypt_encrypt
  have := Block.finite
  -- an injection of a finite set into itself reaches everything
  have onto := Finite.injective_iff_surjective.mp undone.injective
  exact undone.rightInverse_of_surjective onto block

theorem chain_unchain (schedule : Schedule) (mask : Block) (encrypted : List Block) :
    schedule.chain mask (schedule.unchain mask encrypted) = encrypted := by
  induction encrypted generalizing mask with
  | nil => rfl
  | cons block rest ih =>
    have later := ih block
    simp only [unchain] at later
    simp only [unchain, List.zipWith_cons_cons, chain_cons, Block.xor_xor, encrypt_decrypt, later]

end Schedule

/-- Whole blocks whose padding is right are a text and the padding of that text. -/
theorem unpad?_eq_some_iff {padded text : Bytes} (whole : padded.length % 16 = 0) :
    unpad? padded = some text ↔ padded = pad text := by
  constructor
  · intro opened
    unfold unpad? at opened
    split at opened
    · cases opened
    · next mark last =>
      simp only at opened
      split at opened
      · next right =>
        obtain ⟨positive, small, room, repeated⟩ := right
        cases opened
        have missing : 16 - (padded.take (padded.length - mark.toNat)).length % 16 = mark.toNat := by
          rw [List.length_take]
          omega
        rw [pad, missing, UInt8.ofNat_toNat, ← repeated, List.take_append_drop]
      · cases opened
  · rintro rfl
    exact unpad_pad text

/-- Whole blocks that decrypt to a padded text are what that text encrypts to. -/
theorem decryptBlocks_eq_pad_iff (schedule : Schedule) (initial text : Bytes) {encrypted : Bytes}
    (whole : encrypted.length % 16 = 0) :
    decryptBlocks schedule initial encrypted = pad text ↔ encrypted = encryptText schedule initial text := by
  constructor
  · intro decrypted
    obtain ⟨chained, _, same⟩ := @exists_blocks (encrypted.length / 16) encrypted (by omega)
    rw [encryptText, ← decrypted, decryptBlocks, ofBytes_blocks, ← same, ofBytes_blocks, Schedule.chain_unchain]
  · rintro rfl
    exact decryptBlocks_encryptText schedule initial text

theorem length_decryptBlocks (schedule : Schedule) (initial : Bytes) {encrypted : Bytes}
    (whole : encrypted.length % 16 = 0) : (decryptBlocks schedule initial encrypted).length = encrypted.length := by
  obtain ⟨chained, filled, same⟩ := @exists_blocks (encrypted.length / 16) encrypted (by omega)
  have count : (schedule.unchain (.ofBytes initial) chained).length = chained.length := by
    simp [Schedule.unchain]
  rw [decryptBlocks, ← same, ofBytes_blocks, length_flatMap_toBytes, length_flatMap_toBytes, count]

/-- Whole blocks open to exactly the texts that they are encryptions of. -/
theorem unpad?_decryptBlocks_eq_some_iff (schedule : Schedule) (initial text : Bytes) {encrypted : Bytes}
    (whole : encrypted.length % 16 = 0) :
    unpad? (decryptBlocks schedule initial encrypted) = some text ↔
      encrypted = encryptText schedule initial text := by
  rw [unpad?_eq_some_iff (by rw [length_decryptBlocks schedule initial whole, whole]),
    decryptBlocks_eq_pad_iff schedule initial text whole]

end ReadOnce.Cipher
