import ReadOnce.Cipher.Schedule

/-!
The block cipher undone: each step of a round has the step written beside it as its inverse, so decrypting
gives back what was encrypted, whatever the round keys are.
-/
namespace ReadOnce.Cipher

private theorem xor_left_comm (first second third : UInt8) :
    first ^^^ (second ^^^ third) = second ^^^ (first ^^^ third) := by
  rw [← UInt8.xor_assoc, UInt8.xor_comm first second, UInt8.xor_assoc]

private theorem xor_cancel_left (first second : UInt8) : first ^^^ (first ^^^ second) = second := by
  rw [← UInt8.xor_assoc, UInt8.xor_self, UInt8.zero_xor]

private theorem xor_cancel_right (first second : UInt8) : first ^^^ second ^^^ second = first := by
  rw [UInt8.xor_assoc, UInt8.xor_self, UInt8.xor_zero]

private theorem large_xor (left right : UInt8) :
    decide (left ^^^ right ≥ 0x80) = (decide (left ≥ 0x80) ^^ decide (right ≥ 0x80)) := by
  have top (byte : UInt8) : decide (byte ≥ 0x80) = byte.toBitVec.msb := by
    rw [BitVec.msb_eq_decide]
    simp [UInt8.le_iff_toNat_le]
  simp only [top, UInt8.toBitVec_xor, BitVec.msb_xor]

/-- Multiplication by x distributes over sums. -/
theorem double_xor (left right : UInt8) : double (left ^^^ right) = double left ^^^ double right := by
  have carry (byte : UInt8) :
      (if byte ≥ 0x80 then (0x1b : UInt8) else 0) = if decide (byte ≥ 0x80) then 0x1b else 0 := by
    simp
  simp only [double, UInt8.shiftLeft_xor, carry, large_xor]
  cases decide (left ≥ 0x80) <;> cases decide (right ≥ 0x80) <;>
    simp [UInt8.xor_assoc, UInt8.xor_comm, xor_left_comm]

private theorem get_ofFn {size : Nat} (value : Fin size → UInt8) (index : Fin size) :
    (Vector.ofFn value).get index = value index := by
  simp only [Vector.get, Vector.toArray_ofFn, Array.getElem_ofFn]
  rfl

private theorem ofNat_toFin (byte : UInt8) : UInt8.ofNat byte.toFin.val = byte := UInt8.ofNat_toNat

theorem substitute_eq (byte : UInt8) : substitute byte = affine (inverse byte) := by
  rw [substitute, substitutes, get_ofFn, ofNat_toFin]

theorem restore_eq (byte : UInt8) : restore byte = inverse (affineInverse byte) := by
  rw [restore, preimages, get_ofFn, ofNat_toFin]

theorem affineInverse_affine (byte : UInt8) : affineInverse (affine byte) = byte := by
  have table : ∀ index : Fin 256, affineInverse (affine (UInt8.ofNat index)) = UInt8.ofNat index := by
    decide +kernel
  simpa using table byte.toFin

-- The kernel reckons with natural numbers much faster than with bytes, so the table of double inverses is
-- checked on the products of numbers.

private def doubleNat (value : Nat) : Nat := value * 2 % 256 ^^^ value / 128 * 27

private def productNat (left right : Nat) : Nat :=
  go 8 left right 0
where
  go : Nat → Nat → Nat → Nat → Nat
    | 0, _, _, sum => sum
    | count + 1, left, right, sum => go count (doubleNat left) (right / 2) (sum ^^^ right % 2 * left)

private def inverseNat (value : Nat) : Nat :=
  let square (value : Nat) := productNat value value
  let third := productNat (square value) value
  let seventh := productNat (square third) value
  let fifteenth := productNat (square seventh) value
  let thirtyFirst := productNat (square fifteenth) value
  let sixtyThird := productNat (square thirtyFirst) value
  square (productNat (square sixtyThird) value)

private theorem toNat_double (byte : UInt8) : (double byte).toNat = doubleNat byte.toNat := by
  have table : ∀ index : Fin 256, (double (UInt8.ofNat index)).toNat = doubleNat index := by decide +kernel
  simpa using table byte.toFin

private theorem toNat_gather (left right sum : UInt8) :
    (if right &&& 1 = 1 then sum ^^^ left else sum).toNat = sum.toNat ^^^ right.toNat % 2 * left.toNat := by
  have low : right &&& 1 = 1 ↔ right.toNat % 2 = 1 := by simp [← UInt8.toNat_inj]
  by_cases odd : right.toNat % 2 = 1
  · simp [low, odd]
  · have even : right.toNat % 2 = 0 := by omega
    simp [low, even]

private theorem toNat_product (left right : UInt8) :
    (product left right).toNat = productNat left.toNat right.toNat := by
  have general (count : Nat) : ∀ left right sum : UInt8,
      (product.go count left right sum).toNat =
        productNat.go count left.toNat right.toNat sum.toNat := by
    induction count with
    | zero => intro _ _ _; rfl
    | succ count ih =>
      intro left right sum
      rw [product.go, productNat.go, ih, toNat_double, toNat_gather]
      simp [Nat.shiftRight_eq_div_pow]
  exact general 8 left right 0

private theorem toNat_inverse (byte : UInt8) : (inverse byte).toNat = inverseNat byte.toNat := by
  simp only [inverse, inverseNat, toNat_product]

theorem inverse_inverse (byte : UInt8) : inverse (inverse byte) = byte := by
  have table : ∀ index : Fin 256, inverseNat (inverseNat index) = index := by decide +kernel
  apply UInt8.toNat_inj.mp
  rw [toNat_inverse, toNat_inverse]
  exact table byte.toFin

theorem restore_substitute (byte : UInt8) : restore (substitute byte) = byte := by
  rw [restore_eq, substitute_eq, affineInverse_affine, inverse_inverse]

namespace Column

theorem xor_xor (left right : Column) : (left.xor right).xor right = left := by
  simp only [xor, xor_cancel_right]

theorem restore_substitute (column : Column) :
    (column.map substitute).map restore = column := by
  simp only [map, Cipher.restore_substitute]

/-- Mixing twice is balancing: the square of 3y³ + y² + y + 2 is 4y² + 5, modulo y⁴ + 1. -/
theorem mix_mix (column : Column) : column.mix.mix = column.balance := by
  obtain ⟨a, b, c, d⟩ := column
  simp only [mix, balance, double_xor, mk.injEq]
  refine ⟨?_, ?_, ?_, ?_⟩ <;>
    simp only [UInt8.xor_assoc, UInt8.xor_comm, xor_left_comm, xor_cancel_left, UInt8.xor_self, UInt8.zero_xor]

theorem balance_balance (column : Column) : column.balance.balance = column := by
  obtain ⟨a, b, c, d⟩ := column
  simp only [balance, double_xor, mk.injEq]
  refine ⟨?_, ?_, ?_, ?_⟩ <;>
    simp only [UInt8.xor_comm, xor_left_comm, UInt8.xor_self, UInt8.xor_zero, UInt8.zero_xor]

theorem unmix_mix (column : Column) : column.mix.unmix = column := by
  rw [unmix, ← mix_mix, mix_mix, mix_mix, balance_balance]

end Column

namespace Block

theorem xor_xor (left right : Block) : (left.xor right).xor right = left := by
  simp only [xor, Column.xor_xor]

theorem restore_substitute (block : Block) : block.substitute.restore = block := by
  simp only [substitute, restore, map, Column.restore_substitute]

theorem unshift_shift (block : Block) : block.shift.unshift = block := rfl

theorem unmix_mix (block : Block) : block.mix.unmix = block := by
  simp only [mix, unmix, map, Column.unmix_mix]

@[simp] theorem length_toBytes (block : Block) : block.toBytes.length = 16 := rfl

@[simp] theorem ofBytes_toBytes (block : Block) : ofBytes block.toBytes = block := rfl

theorem toBytes_ofBytes {bytes : Bytes} (full : bytes.length = 16) : (ofBytes bytes).toBytes = bytes := by
  match bytes, full with
  | [_, _, _, _, _, _, _, _, _, _, _, _, _, _, _, _], _ => rfl

end Block

private theorem foldr_foldl {state key : Type} {advance retreat : state → key → state}
    (undone : ∀ current round, retreat (advance current round) round = current) (keys : List key)
    (start : state) :
    keys.foldr (fun round current => retreat current round) (keys.foldl advance start) = start := by
  induction keys generalizing start with
  | nil => rfl
  | cons round rest ih => rw [List.foldl_cons, List.foldr_cons, ih, undone]

theorem Schedule.decrypt_encrypt (schedule : Schedule) (block : Block) :
    schedule.decrypt (schedule.encrypt block) = block := by
  have round (state key : Block) :
      ((state.substitute.shift.mix.xor key).xor key).unmix.unshift.restore = state := by
    rw [Block.xor_xor, Block.unmix_mix, Block.unshift_shift, Block.restore_substitute]
  simp only [encrypt, decrypt, Block.xor_xor, Block.unshift_shift, Block.restore_substitute]
  rw [foldr_foldl round schedule.middle (block.xor schedule.first), Block.xor_xor]

end ReadOnce.Cipher
