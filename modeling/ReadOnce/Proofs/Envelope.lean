import ReadOnce.Envelope
import ReadOnce.Proofs.Base64
import ReadOnce.Proofs.Cipher.Chaining

/-!
Envelopes open under the key that locked them: at every length of the text, with every initial block and every
key of 32 bytes.
-/
namespace ReadOnce.Envelope

theorem exists_schedule {key : Bytes} (fits : key.length = 32) :
    ∃ schedule, Cipher.Schedule.ofKey key = .ok schedule := by
  cases found : Cipher.Schedule.ofKey key with
  | ok schedule => exact ⟨schedule, rfl⟩
  | error fault => simp [Cipher.Schedule.ofKey, fits] at found

theorem decode?_lockWith (schedule : Cipher.Schedule) (initial text : Bytes) :
    Base64.decode? (lockWith schedule initial text) =
      some (initial ++ Cipher.encryptText schedule initial text) :=
  Base64.decode?_encode _

theorem unlock_lockWith {schedule : Cipher.Schedule} {initial key : Bytes} (text : Bytes)
    (fits : key.length = 32) (scheduled : Cipher.Schedule.ofKey key = .ok schedule)
    (full : initial.length = 16) : unlock (lockWith schedule initial text) key = .ok text := by
  have size := Cipher.length_encryptText schedule initial text
  have long : ¬ (initial ++ Cipher.encryptText schedule initial text).length < 16 + 1 := by
    rw [List.length_append, size]
    omega
  have whole : ¬ (Cipher.encryptText schedule initial text).length % 16 ≠ 0 := by
    rw [size]
    omega
  have front : (initial ++ Cipher.encryptText schedule initial text).take 16 = initial := List.take_left' full
  have back : (initial ++ Cipher.encryptText schedule initial text).drop 16 =
      Cipher.encryptText schedule initial text := List.drop_left' full
  simp only [unlock, decode?_lockWith, initialLength, keyLength, if_neg long, front, back, if_neg whole, fits,
    scheduled, Cipher.decryptBlocks_encryptText, Cipher.unpad_pad]
  rfl

theorem lock_eq {σ : Type} {source : RandomSource σ} {state next : σ} {initial key : Bytes}
    {schedule : Cipher.Schedule} (text : Bytes) (drawn : source.bytes 16 state = (.ok initial, next))
    (scheduled : Cipher.Schedule.ofKey key = .ok schedule) :
    lock source text key state = (.ok (lockWith schedule initial text), next) := by
  simp only [lock, initialLength, drawn, scheduled]

/-- Locking succeeds for every text and every key of 32 bytes, the envelope holds the initial block and as many
encrypted bytes as the padded text has, and the same key gives the text back. -/
theorem unlock_lock {σ : Type} (source : RandomSource σ) (state next : σ) (text key initial : Bytes)
    (fits : key.length = 32) (drawn : source.draw 16 state = (.bytes initial, next))
    (full : initial.length = 16) :
    ∃ envelope encrypted, lock source text key state = (.ok envelope, next) ∧
      Base64.decode? envelope = some (initial ++ encrypted) ∧
      encrypted.length = 16 * (text.length / 16 + 1) ∧
      unlock envelope key = .ok text := by
  obtain ⟨schedule, scheduled⟩ := exists_schedule fits
  have ready : source.bytes 16 state = (.ok initial, next) := by
    simp only [RandomSource.bytes, drawn, full, if_true]
  refine ⟨lockWith schedule initial text, Cipher.encryptText schedule initial text, ?_, ?_, ?_, ?_⟩
  · exact lock_eq text ready scheduled
  · exact decode?_lockWith schedule initial text
  · exact Cipher.length_encryptText schedule initial text
  · exact unlock_lockWith text fits scheduled full

/-- A text that fills its only block, so that a whole block of padding follows it. -/
theorem unlock_lock_full_block :
    (List.replicate 32 (0xa5 : UInt8)).length = 32 ∧ (List.replicate 16 (0x0f : UInt8)).length = 16 ∧
    ∃ envelope encrypted,
      lock (RandomSource.mk fun length (count : Nat) => (.bytes (List.replicate length 0x0f), count + 1))
        (List.replicate 16 0x61) (List.replicate 32 0xa5) 0 = (.ok envelope, 1) ∧
      Base64.decode? envelope = some (List.replicate 16 0x0f ++ encrypted) ∧
      encrypted.length = 16 * ((List.replicate 16 (0x61 : UInt8)).length / 16 + 1) ∧
      unlock envelope (List.replicate 32 0xa5) = .ok (List.replicate 16 0x61) :=
  ⟨by decide, by decide, unlock_lock _ 0 1 _ _ _ (by decide) rfl (by decide)⟩

end ReadOnce.Envelope
