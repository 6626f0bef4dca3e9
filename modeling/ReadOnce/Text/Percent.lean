import ReadOnce.Text.Hex

/-!
Bytes written as a percent sign and two hexadecimal digits, as they are in addresses. A percent sign that is not
followed by two digits stands for itself.
-/
namespace ReadOnce.Text.Percent

/-- The byte of two digits. -/
def pair? (high low : UInt8) : Option UInt8 := do
  let upper ← Hex.value? (Char.ofNat high.toNat)
  let lower ← Hex.value? (Char.ofNat low.toNat)
  return UInt8.ofNat (upper * 16 + lower)

def decode : Bytes → Bytes
  | byte :: high :: low :: rest =>
    match if byte = 37 then pair? high low else none with
    | some written => written :: decode rest
    | none => byte :: decode (high :: low :: rest)
  | bytes => bytes

theorem decode_eq_self {bytes : Bytes} (plain : 37 ∉ bytes) : decode bytes = bytes := by
  fun_induction decode bytes with
  | case1 byte high low rest written found =>
    have sign : byte ≠ 37 := fun same => plain (by simp [same])
    simp [sign] at found
  | case2 byte high low rest _ ih => rw [ih fun inside => plain (List.mem_cons_of_mem byte inside)]
  | case3 => rfl

end ReadOnce.Text.Percent
