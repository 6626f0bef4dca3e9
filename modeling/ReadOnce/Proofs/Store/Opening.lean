import Mathlib
import ReadOnce.Proofs.Settings
import ReadOnce.Store.Opening

/-!
How long an opened database is waited for. Settings accept any number above zero, an infinite one as well, while a
connection is waited for whole seconds; it is said for which numbers there is a bound to the waiting.
-/
namespace ReadOnce

namespace Decimal

open Float.Model Float.Model.UnpackedFloat

section Bits

variable (bits : UInt64)

theorem toNat_exponent :
    (@unpackExponent Format.binary64 bits.toBitVec).toNat = bits.toNat / 2 ^ 52 % 2048 := by
  simp [unpackExponent, BitVec.extractLsb, Nat.shiftRight_eq_div_pow]

theorem toNat_mantissa : (@unpackMantissa Format.binary64 bits.toBitVec).toNat = bits.toNat % 2 ^ 52 := by
  simp [unpackMantissa, BitVec.extractLsb]

theorem toNat_sign : (@unpackSign Format.binary64 bits.toBitVec).toNat = bits.toNat / 2 ^ 63 := by
  have small := bits.toNat_lt
  simp only [unpackSign, BitVec.extractLsb, BitVec.toNat_cast, BitVec.extractLsb'_toNat, UInt64.toNat_toBitVec,
    Nat.shiftRight_eq_div_pow]
  omega

theorem exponent_eq_iff (value : BitVec 11) :
    @unpackExponent Format.binary64 bits.toBitVec = value ↔ bits.toNat / 2 ^ 52 % 2048 = value.toNat := by
  rw [← toNat_exponent, BitVec.toNat_inj]

theorem mantissa_eq_zero_iff :
    @unpackMantissa Format.binary64 bits.toBitVec = 0#52 ↔ bits.toNat % 2 ^ 52 = 0 := by
  rw [← toNat_mantissa, ← BitVec.toNat_inj]
  rfl

theorem sign_apply (size : Nat) :
    (Sign.ofBitVec (@unpackSign Format.binary64 bits.toBitVec)).apply size =
      if bits.toNat / 2 ^ 63 = 0 then (size : Int) else -size := by
  have positive : @unpackSign Format.binary64 bits.toBitVec = 0#1 ↔ bits.toNat / 2 ^ 63 = 0 := by
    rw [← toNat_sign, ← BitVec.toNat_inj]
    rfl
  simp only [Sign.ofBitVec, positive]
  split <;> rfl

theorem toNat_leading_one :
    (1#1 ++ @unpackMantissa Format.binary64 bits.toBitVec).toNat = bits.toNat % 2 ^ 52 + 2 ^ 52 := by
  rw [BitVec.toNat_append, ← Nat.shiftLeft_add_eq_or_of_lt (BitVec.isLt _), toNat_mantissa, Nat.add_comm]
  rfl

theorem bias_eq : (Format.binary64.exponentBias : Int) + Format.binary64.mantissaBitsWithoutImplicit = 1075 := by
  decide

end Bits

/-- The digits of a finite number fill their place, unless the number is too small for that. -/
structure Canonical (mantissa : Nat) (exponent : Int) : Prop where
  lt : mantissa < 2 ^ 53
  full : 2 ^ 52 ≤ mantissa ∨ exponent = -1074

theorem canonical_of_unpack {bits : UInt64} {sign : Sign} {mantissa : Nat} {exponent : Int} {positive : 0 < mantissa}
    (parts : UnpackedFloat.unpack Format.binary64 bits.toBitVec = .finite sign mantissa exponent positive) :
    Canonical mantissa exponent := by
  have fraction : bits.toNat % 2 ^ 52 < 2 ^ 52 := Nat.mod_lt _ (Nat.two_pow_pos 52)
  rw [UnpackedFloat.unpack] at parts
  dsimp only at parts
  split at parts
  · split at parts <;> cases parts
  split at parts
  · next bottom =>
    split at parts
    · cases parts
    · obtain ⟨_, rfl, rfl⟩ := UnpackedFloat.finite.inj parts
      rw [toNat_mantissa, toNat_exponent, (exponent_eq_iff bits _).mp bottom, bias_eq]
      exact ⟨by omega, .inr rfl⟩
  · obtain ⟨_, rfl, rfl⟩ := UnpackedFloat.finite.inj parts
    rw [toNat_leading_one]
    exact ⟨by omega, .inl (by omega)⟩

/-- The whole part of a number that is taken apart. -/
def wholeOfParts : UnpackedFloat → Except WholeFault Int
  | .infinity _ => .error .infinite
  | .notANumber => .error .notANumber
  | .zero _ => .ok 0
  | .finite sign mantissa exponent _ =>
    .ok (sign.apply ↑(mantissa * 2 ^ exponent.toNat / 2 ^ (-exponent).toNat))

theorem wholeOfBits_eq (bits : UInt64) :
    wholeOfBits bits = wholeOfParts (UnpackedFloat.unpack Format.binary64 bits.toBitVec) := by
  have top := exponent_eq_iff bits (-1#11)
  have bottom := exponent_eq_iff bits 0#11
  have empty := mantissa_eq_zero_iff bits
  simp only [wholeOfBits, Nat.pow_eq, ← sign_apply]
  rw [UnpackedFloat.unpack]
  dsimp only
  generalize held : bits.toNat / 2 ^ 52 % 2048 = place at top bottom
  have exponent : (@unpackExponent Format.binary64 bits.toBitVec).toNat = place := (toNat_exponent bits).trans held
  by_cases last : place = 2047
  · rw [if_pos last, if_pos (top.mpr last)]
    by_cases none : bits.toNat % 2 ^ 52 = 0
    · rw [if_pos none, if_pos (empty.mpr none), wholeOfParts]
    · rw [if_neg none, if_neg (mt empty.mp none), wholeOfParts]
  rw [if_neg last, if_neg (mt top.mp last)]
  by_cases first : place = 0
  · rw [if_pos first, if_pos (bottom.mpr first)]
    by_cases none : bits.toNat % 2 ^ 52 = 0
    · rw [dif_pos (empty.mpr none), none, wholeOfParts, Nat.zero_mul, Nat.zero_div]
      cases Sign.ofBitVec (@unpackSign Format.binary64 bits.toBitVec) <;> rfl
    · -- so far below one that it does not matter which place the fraction is given
      have tiny {power : Nat} (large : 52 ≤ power) : bits.toNat % 2 ^ 52 / 2 ^ power = 0 :=
        Nat.div_eq_of_lt (Nat.lt_of_lt_of_le (Nat.mod_lt _ (Nat.two_pow_pos 52))
          (Nat.pow_le_pow_right Nat.two_pos large))
      have up : ((place : Int) - 1075 + 1).toNat = 0 := by omega
      have below : place - 1075 = 0 := by omega
      rw [dif_neg (mt empty.mp none), wholeOfParts, exponent, toNat_mantissa, bias_eq, up, below, Nat.pow_zero,
        Nat.mul_one, tiny (by omega), tiny (by omega)]
  · have up : ((place : Int) - 1075).toNat = place - 1075 := by omega
    have down : (-((place : Int) - 1075)).toNat = 1075 - place := by omega
    rw [if_neg first, if_neg (mt bottom.mp first), wholeOfParts, exponent, toNat_leading_one, bias_eq, up, down]

theorem whole_eq (number : Float) : whole number = wholeOfParts number.toModel.unpack :=
  wholeOfBits_eq number.toModel.toBits

theorem finite_le_iff {left right : Nat} {lower upper : Int} {some : 0 < left} {more : 0 < right} :
    (UnpackedFloat.finite .positive left lower some).le (.finite .positive right upper more) = true ↔
      lower < upper ∨ lower = upper ∧ left ≤ right := by
  simp only [UnpackedFloat.le, UnpackedFloat.compare, Option.any_some]
  rw [Ordering.isLE_then_iff_or]
  simp [Int.compare_eq_lt, Nat.isLE_compare]

theorem finite_lt_iff {left right : Nat} {lower upper : Int} {some : 0 < left} {more : 0 < right} :
    (UnpackedFloat.finite .positive left lower some).lt (.finite .positive right upper more) = true ↔
      lower < upper ∨ lower = upper ∧ left < right := by
  simp [UnpackedFloat.lt, UnpackedFloat.compare, Ordering.then_eq_lt, Int.compare_eq_lt, Nat.compare_eq_lt]

theorem lt_iff {left right : Float} : left < right ↔ left.toModel.unpack.lt right.toModel.unpack = true :=
  decide_eq_true_iff

theorem le_iff {left right : Float} : left ≤ right ↔ left.toModel.unpack.le right.toModel.unpack = true :=
  decide_eq_true_iff

theorem unpack_one : (1.0 : Float).toModel.unpack = .finite .positive (2 ^ 52) (-52) (by decide) := by rfl

theorem unpack_of_positive {number : Float} (above : number > 0.0) :
    number.toModel.unpack = .infinity .positive ∨
      ∃ mantissa exponent positive, number.toModel.unpack = .finite .positive mantissa exponent positive := by
  have zero : (0.0 : Float).toModel.unpack = .zero .positive := by rfl
  rw [GT.gt, lt_iff, zero] at above
  match parts : number.toModel.unpack, above with
  | .infinity .positive, _ => exact .inl rfl
  | .finite .positive mantissa exponent positive, _ => exact .inr ⟨mantissa, exponent, positive, rfl⟩

theorem one_le_size_iff {mantissa : Nat} {exponent : Int} (canonical : Canonical mantissa exponent) :
    1 ≤ mantissa * 2 ^ exponent.toNat / 2 ^ (-exponent).toNat ↔
      -52 < exponent ∨ -52 = exponent ∧ 2 ^ 52 ≤ mantissa := by
  have lt := canonical.lt
  rw [Nat.le_div_iff_mul_le (Nat.two_pow_pos _), Nat.one_mul]
  by_cases small : exponent < -52
  · have up : exponent.toNat = 0 := by omega
    have down : 2 ^ 53 ≤ 2 ^ (-exponent).toNat := Nat.pow_le_pow_right Nat.two_pos (by omega)
    rw [up, Nat.pow_zero, Nat.mul_one]
    omega
  by_cases last : exponent = -52
  · subst last
    simp
  · have full : 2 ^ 52 ≤ mantissa := canonical.full.resolve_right (by omega)
    have down : 2 ^ (-exponent).toNat ≤ 2 ^ 52 := Nat.pow_le_pow_right Nat.two_pos (by omega)
    have up : mantissa ≤ mantissa * 2 ^ exponent.toNat := Nat.le_mul_of_pos_right _ (Nat.two_pow_pos _)
    exact iff_of_true (Nat.le_trans down (Nat.le_trans full up)) (.inl (by omega))

/-- What the whole part of a number above zero comes to: there is none where the number is infinite, it is nothing
where the number is less than one, and one or more otherwise. -/
theorem whole_of_positive {number : Float} (above : number > 0.0) :
    (number.isInf = true ∧ ¬ number.isFinite = true ∧ whole number = .error .infinite) ∨
      (number < 1.0 ∧ ¬ 1.0 ≤ number ∧ whole number = .ok 0) ∨
      (1.0 ≤ number ∧ number.isFinite = true ∧ ∃ size, 1 ≤ size ∧ whole number = .ok size) := by
  rw [whole_eq, lt_iff, le_iff, unpack_one, Float.isInf, Float.isFinite, Float.Model.isInf, Float.Model.isFinite]
  rcases unpack_of_positive above with parts | ⟨mantissa, exponent, positive, parts⟩
  · rw [parts]
    exact .inl ⟨rfl, Bool.false_ne_true, rfl⟩
  · have size := one_le_size_iff (canonical_of_unpack parts)
    rw [parts, finite_lt_iff, finite_le_iff, wholeOfParts, Sign.apply]
    by_cases large : -52 < exponent ∨ -52 = exponent ∧ 2 ^ 52 ≤ mantissa
    · exact .inr (.inr ⟨large, rfl, _, Int.ofNat_le.mpr (size.mpr large), rfl⟩)
    · have none := Nat.lt_one_iff.mp (Nat.not_le.mp (mt size.mp large))
      rw [none]
      exact .inr (.inl ⟨by omega, large, rfl⟩)

end Decimal

namespace Store.DatabaseAccess

/-- A connection to a database server is waited for as long as the settings say, in whole seconds; so there is a bound
to the waiting exactly where they say one second or more and not for ever. Where they say less than one, no seconds are
left, and where they say for ever, the database is not opened. -/
theorem ofUrl_bounded_iff {fields : Settings.Fields} {settings : Settings} {url : String}
    (accepted : Settings.ofFields fields = .ok settings) (remote : isEmbedded url = false) :
    ((∃ pool, ofUrl url settings.storeTimeout = .ok (.pooled pool) ∧ 1 ≤ pool.connectSeconds) ↔
        1.0 ≤ settings.storeTimeout ∧ settings.storeTimeout.isFinite = true) ∧
      (¬ (1.0 ≤ settings.storeTimeout ∧ settings.storeTimeout.isFinite = true) →
        (settings.storeTimeout < 1.0 ∧
            ∃ pool, ofUrl url settings.storeTimeout = .ok (.pooled pool) ∧ pool.connectSeconds = 0) ∨
          (settings.storeTimeout.isInf = true ∧ ofUrl url settings.storeTimeout = .error .infinite)) := by
  simp only [ofUrl, remote, Bool.false_eq_true, if_false]
  rcases Decimal.whole_of_positive (Settings.storeTimeout_gt accepted) with
    ⟨infinite, unbounded, whole⟩ | ⟨less, short, whole⟩ | ⟨long, finite, seconds, one, whole⟩ <;>
    rw [whole, Except.map]
  · refine ⟨iff_of_false ?_ fun bounded => unbounded bounded.2, fun _ => .inr ⟨infinite, rfl⟩⟩
    rintro ⟨pool, given, _⟩
    cases given
  · refine ⟨iff_of_false ?_ fun bounded => short bounded.1, fun _ => .inl ⟨less, _, rfl, rfl⟩⟩
    rintro ⟨pool, given, one⟩
    cases given
    exact absurd one (Int.not_le.mpr Int.zero_lt_one)
  · exact ⟨iff_of_true ⟨_, rfl, one⟩ ⟨long, finite⟩, fun other => absurd ⟨long, finite⟩ other⟩

/-- Of two seconds and a half, two are left. -/
theorem ofUrl_bounded_fraction :
    Settings.ofEnvironment [("STORE_TIMEOUT", "2.5")] = .ok { storeTimeout := 2.5 } ∧
      isEmbedded "postgresql://db/broker" = false ∧
      ∃ pool, ofUrl "postgresql://db/broker" 2.5 = .ok (.pooled pool) ∧ 1 ≤ pool.connectSeconds := by
  have accepted : Settings.ofEnvironment [("STORE_TIMEOUT", "2.5")] = .ok { storeTimeout := 2.5 } := by rfl
  have remote : isEmbedded "postgresql://db/broker" = false := by decide
  refine ⟨accepted, remote, ?_⟩
  exact (ofUrl_bounded_iff accepted remote).1.mpr ⟨by decide, by decide⟩

/-- Half a second is accepted, but comes to no seconds; an infinite time is accepted, but comes to nothing at all. -/
theorem ofUrl_unbounded :
    Settings.ofEnvironment [("STORE_TIMEOUT", "0.5")] = .ok { storeTimeout := 0.5 } ∧
      ofUrl "postgresql://db/broker" 0.5 = .ok (.pooled ⟨5, 10, 3600, true, false, 0.5, 0⟩) ∧
      Settings.ofEnvironment [("STORE_TIMEOUT", "inf")] = .ok { storeTimeout := 1.0 / 0.0 } ∧
      ofUrl "postgresql://db/broker" (1.0 / 0.0) = .error .infinite := by
  refine ⟨rfl, rfl, rfl, rfl⟩

end Store.DatabaseAccess
end ReadOnce
