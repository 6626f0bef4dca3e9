import ReadOnce.Cipher.Chaining
import ReadOnce.Proofs.Cipher.Rounds

/-!
Texts of any length through the cipher: a chain undone block by block, and padding taken off again at every
length of the text.
-/
namespace ReadOnce.Cipher

namespace Schedule

private theorem chain_go (schedule : Schedule) (mask : Block) (text : List Block) (done : Array Block) :
    chain.go schedule mask text done = done.toList ++ schedule.chain mask text := by
  induction text generalizing mask done with
  | nil => simp [chain, chain.go]
  | cons block rest ih =>
    simp only [chain, chain.go]
    rw [ih _ (done.push _), ih _ (#[].push _)]
    simp

@[simp] theorem chain_nil (schedule : Schedule) (mask : Block) : schedule.chain mask [] = [] := rfl

@[simp] theorem chain_cons (schedule : Schedule) (mask block : Block) (rest : List Block) :
    schedule.chain mask (block :: rest) =
      schedule.encrypt (block.xor mask) :: schedule.chain (schedule.encrypt (block.xor mask)) rest := by
  simp only [chain, chain.go]
  rw [chain_go]
  rfl

@[simp] theorem length_chain (schedule : Schedule) (mask : Block) (text : List Block) :
    (schedule.chain mask text).length = text.length := by
  induction text generalizing mask with
  | nil => rfl
  | cons block rest ih => simp [ih]

/-- A chain read back from its mask is the text it was made of. -/
theorem unchain_chain (schedule : Schedule) (mask : Block) (text : List Block) :
    schedule.unchain mask (schedule.chain mask text) = text := by
  induction text generalizing mask with
  | nil => rfl
  | cons block rest ih =>
    have later := ih (schedule.encrypt (block.xor mask))
    simp only [unchain] at later
    simp only [unchain, chain_cons, List.zipWith_cons_cons, later, decrypt_encrypt, Block.xor_xor]

end Schedule

theorem blocks_flatMap_toBytes (text : List Block) :
    blocks 16 (text.flatMap Block.toBytes) = text.map Block.toBytes := by
  induction text with
  | nil => simp
  | cons block rest ih =>
    rw [List.flatMap_cons, blocks_append _ (by decide) block.length_toBytes, ih, List.map_cons]

theorem ofBytes_blocks (text : List Block) :
    (blocks 16 (text.flatMap Block.toBytes)).map Block.ofBytes = text := by
  rw [blocks_flatMap_toBytes, List.map_map]
  exact List.map_id'' Block.ofBytes_toBytes text

theorem length_flatMap_toBytes (text : List Block) :
    (text.flatMap Block.toBytes).length = 16 * text.length := by
  induction text with
  | nil => rfl
  | cons block rest ih =>
    rw [List.flatMap_cons, List.length_append, ih, Block.length_toBytes, List.length_cons]
    omega

theorem exists_blocks {count : Nat} (bytes : Bytes) (whole : bytes.length = 16 * count) :
    ∃ text : List Block, text.length = count ∧ text.flatMap Block.toBytes = bytes := by
  induction count generalizing bytes with
  | zero => exact ⟨[], rfl, (List.length_eq_zero_iff.mp (by omega)).symm⟩
  | succ count ih =>
    have front : (bytes.take 16).length = 16 := by rw [List.length_take]; omega
    obtain ⟨rest, filled, same⟩ := ih (bytes.drop 16) (by rw [List.length_drop]; omega)
    refine ⟨.ofBytes (bytes.take 16) :: rest, by simp [filled], ?_⟩
    rw [List.flatMap_cons, Block.toBytes_ofBytes front, same, List.take_append_drop]

theorem length_pad (text : Bytes) : (pad text).length = 16 * (text.length / 16 + 1) := by
  simp only [pad, List.length_append, List.length_replicate]
  omega

theorem unpad_pad (text : Bytes) : unpad? (pad text) = some text := by
  have small : text.length % 16 < 16 := Nat.mod_lt _ (by decide)
  generalize missing_eq : 16 - text.length % 16 = missing
  have bounds : 1 ≤ missing ∧ missing ≤ 16 := by omega
  have mark : (UInt8.ofNat missing).toNat = missing :=
    UInt8.toNat_ofNat_of_lt' (Nat.lt_of_le_of_lt bounds.2 (by decide))
  have last : (pad text).getLast? = some (UInt8.ofNat missing) := by
    rw [pad, missing_eq, List.getLast?_append, List.getLast?_replicate, if_neg (by omega)]
    rfl
  have size : (pad text).length - missing = text.length := by
    rw [pad, missing_eq, List.length_append, List.length_replicate]
    omega
  have front : (pad text).take text.length = text := by rw [pad, List.take_left]
  have back : (pad text).drop text.length = List.replicate missing (UInt8.ofNat missing) := by
    rw [pad, missing_eq, List.drop_left]
  have room : missing ≤ (pad text).length := by rw [length_pad]; omega
  simp only [unpad?, last, mark, size, front, back]
  rw [if_pos ⟨bounds.1, bounds.2, room, trivial⟩]

theorem length_encryptText (schedule : Schedule) (initial text : Bytes) :
    (encryptText schedule initial text).length = 16 * (text.length / 16 + 1) := by
  obtain ⟨padded, filled, same⟩ := exists_blocks (pad text) (length_pad text)
  rw [encryptText, ← same, ofBytes_blocks, length_flatMap_toBytes, Schedule.length_chain, filled]

theorem decryptBlocks_encryptText (schedule : Schedule) (initial text : Bytes) :
    decryptBlocks schedule initial (encryptText schedule initial text) = pad text := by
  obtain ⟨padded, filled, same⟩ := exists_blocks (pad text) (length_pad text)
  rw [encryptText, decryptBlocks, ofBytes_blocks, Schedule.unchain_chain, ← same, ofBytes_blocks]

end ReadOnce.Cipher
