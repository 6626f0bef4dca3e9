import ReadOnce.Store.Interface
import ReadOnce.Text.Numeral

/-!
Counters as texts: a written count reads back as itself, so counting on from a written count is adding one.
-/
namespace ReadOnce.Text.Numeral

private theorem digit_plain {char : Char} (digit : char.isDigit) :
    isPlainDigit char = true ∧ isPlainBlank char = false ∧ char ≠ '-' ∧ char ≠ '+' ∧ char ≠ '_' ∧
      char.toNat < 0x80 ∧ 48 ≤ char.toNat := by
  have bounds : 48 ≤ char.toNat ∧ char.toNat ≤ 57 := by
    simpa [Char.isDigit, UInt32.le_iff_toNat_le] using digit
  refine ⟨?_, ?_, ?_, ?_, ?_, by omega, bounds.1⟩
  · simpa [isPlainDigit, Char.le_def, UInt32.le_iff_toNat_le] using bounds
  · have apart : char ≠ ' ' := by
      rintro rfl
      exact absurd bounds.1 (by decide)
    have above : 13 < char.toNat := by omega
    simp [isPlainBlank, apart, above]
  · rintro rfl
    exact absurd bounds.1 (by decide)
  · rintro rfl
    exact absurd bounds.1 (by decide)
  · rintro rfl
    exact absurd bounds.2 (by decide)

private theorem underscoresFit_digits {chars : List Char} (digits : ∀ char ∈ chars, char.isDigit) :
    underscoresFit true chars = true := by
  induction chars with
  | nil => rfl
  | cons char rest ih =>
    have apart := (digit_plain (digits char List.mem_cons_self)).2.2.2.2.1
    rw [underscoresFit, if_neg apart]
    exact ih fun other member => digits other (List.mem_cons_of_mem char member)

private theorem foldl_digits {chars : List Char} (digits : ∀ char ∈ chars, char.isDigit) (start : Nat) :
    chars.foldl (fun (value : Int) digit => value * 10 + (digit.toNat - 48)) start =
      Nat.ofDigitChars 10 chars start := by
  induction chars generalizing start with
  | nil => simp
  | cons char rest ih =>
    have low := (digit_plain (digits char List.mem_cons_self)).2.2.2.2.2.2
    have next : (start : Int) * 10 + (char.toNat - 48) = ((10 * start + (char.toNat - '0'.toNat) : Nat) : Int) := by
      have zero : '0'.toNat = 48 := rfl
      omega
    rw [List.foldl_cons, next, ih (fun other member => digits other (List.mem_cons_of_mem char member)),
      Nat.ofDigitChars_cons]

/-- Digits that are not too many read as the number they write. -/
theorem ofPlain_digits {chars : List Char} (shown : Unit → List Char) (digits : ∀ char ∈ chars, char.isDigit)
    (nonempty : chars ≠ []) (short : chars.length ≤ digitLimit) :
    ofPlain chars shown = .ok (Nat.ofDigitChars 10 chars 0 : Nat) := by
  obtain ⟨first, rest, rfl⟩ := List.exists_cons_of_ne_nil nonempty
  have plain := digit_plain (digits first List.mem_cons_self)
  have body : (first :: rest).dropWhile isPlainBlank = first :: rest := by
    rw [List.dropWhile_cons_of_neg (by simp [plain.2.1])]
  have run : (first :: rest).takeWhile (fun char => isPlainDigit char || char = '_') = first :: rest := by
    have all : ∀ char ∈ first :: rest, (isPlainDigit char || char = '_') = true := by
      intro char member
      simp [(digit_plain (digits char member)).1]
    have whole := @List.takeWhile_append_of_pos _ _ _ [] all
    simpa using whole
  have kept : (first :: rest).filter isPlainDigit = first :: rest := by
    apply List.filter_eq_self.mpr
    intro char member
    exact (digit_plain (digits char member)).1
  have fit : underscoresFit false (first :: rest) = true := by
    rw [underscoresFit, if_neg plain.2.2.2.2.1]
    exact underscoresFit_digits fun char member => digits char (List.mem_cons_of_mem first member)
  have minus : ¬ (some first = some '-') := by simpa using plain.2.2.1
  have plus : ¬ (some first = some '-' ∨ some first = some '+') := by
    simpa using ⟨plain.2.2.1, plain.2.2.2.1⟩
  have value := foldl_digits digits 0
  simp only [Int.natCast_zero] at value
  simp only [ofPlain, body, List.head?_cons, if_neg plus, run, kept, fit, List.drop_length, value,
    if_neg (Nat.not_lt.mpr short), if_neg minus]
  simp

private theorem one_lt_pow_ten {count : Nat} (nonzero : count ≠ 0) : 1 < Nat.pow 10 count :=
  Nat.one_lt_pow nonzero (by decide)

private theorem length_toDigits_le {number count : Nat} (positive : 0 < count) (small : number < Nat.pow 10 count) :
    (Nat.toDigits 10 number).length ≤ count := (Nat.length_toDigits_le_iff (by decide) positive).mpr small

theorem one_lt_numeralLimit : 1 < numeralLimit := by
  unfold numeralLimit
  exact @one_lt_pow_ten digitLimit (by decide)

theorem parse_toString {number : Nat} (small : number < numeralLimit) :
    parse (toString (number : Int)) = .ok number := by
  have chars : (toString (number : Int)).toList = Nat.toDigits 10 number := by
    exact Nat.toList_repr
  have digits : ∀ char ∈ Nat.toDigits 10 number, char.isDigit := fun char member =>
    Nat.isDigit_of_mem_toDigits (by decide) (by decide) member
  have ascii : (Nat.toDigits 10 number).all (fun char => decide (char.toNat < 0x80)) = true := by
    apply List.all_eq_true.mpr
    intro char member
    simpa using (digit_plain (digits char member)).2.2.2.2.2.1
  have same : (Nat.toDigits 10 number).map (plain true) = Nat.toDigits 10 number := by
    apply List.map_id''
    intro char
    simp [plain]
  have short : (Nat.toDigits 10 number).length ≤ digitLimit := by
    unfold numeralLimit at small
    exact @length_toDigits_le number digitLimit (by decide) small
  rw [parse, chars, ascii, same, ofPlain_digits _ digits Nat.toDigits_ne_nil short, Nat.ofDigitChars_ten_toDigits]

theorem eq_of_toString_eq {number : Int} {known : Nat} (same : toString number = toString (known : Int)) :
    number = known := by
  have written : (toString (known : Int)).toList = Nat.toDigits 10 known := Nat.toList_repr
  cases number with
  | ofNat other =>
    have there : (toString (Int.ofNat other)).toList = Nat.toDigits 10 other := Nat.toList_repr
    have digits : Nat.toDigits 10 known = Nat.toDigits 10 other := by rw [← written, ← same, there]
    have read := congrArg (Nat.ofDigitChars 10 · 0) digits
    simp only [Nat.ofDigitChars_ten_toDigits] at read
    rw [read, Int.ofNat_eq_natCast]
  | negSucc other =>
    have signed : '-' ∈ (toString (Int.negSucc other)).toList := by
      have there : toString (Int.negSucc other) = "-" ++ Nat.repr (other + 1) := rfl
      simp [there]
    rw [same, written] at signed
    exact absurd (Nat.isDigit_of_mem_toDigits (by decide) (by decide) signed) (by decide)

end Numeral
end ReadOnce.Text

namespace ReadOnce.Store

/-- The count after a written one, while it has no more digits than can be written. -/
theorem nextCount_toString {count : Nat} (small : count + 1 < Text.numeralLimit) :
    nextCount (toString (count : Int)) = .ok (count + 1, toString ((count + 1 : Nat) : Int)) := by
  have read : Text.Numeral.parse (toString (count : Int)) = .ok count := Text.Numeral.parse_toString (by omega)
  have written : Text.Numeral.write (count + 1) = .ok (toString ((count + 1 : Nat) : Int)) := by
    rw [Text.Numeral.write, if_pos (by omega)]
    rfl
  simp only [nextCount, read, written]

/-- The largest count that can be written is the last. -/
theorem nextCount_toString_last {count : Nat} (last : count + 1 = Text.numeralLimit) :
    nextCount (toString (count : Int)) = .error (.counter .tooLarge) := by
  have read : Text.Numeral.parse (toString (count : Int)) = .ok count := Text.Numeral.parse_toString (by omega)
  have refused : Text.Numeral.write ((count : Int) + 1) = .error .tooLarge := by
    rw [Text.Numeral.write, if_neg (by omega)]
  simp only [nextCount, read, refused]

theorem nextCount_toString_ok {count : Nat} {next : Int} {text : String} (small : count < Text.numeralLimit)
    (counted : nextCount (toString (count : Int)) = .ok (next, text)) :
    next = (count + 1 : Nat) ∧ text = toString ((count + 1 : Nat) : Int) ∧ count + 1 < Text.numeralLimit := by
  rcases Nat.lt_or_eq_of_le small with room | last
  · rw [nextCount_toString room] at counted
    obtain ⟨rfl, rfl⟩ := Prod.mk.inj (Except.ok.inj counted)
    exact ⟨rfl, rfl, room⟩
  · rw [nextCount_toString_last last] at counted
    cases counted

end ReadOnce.Store
