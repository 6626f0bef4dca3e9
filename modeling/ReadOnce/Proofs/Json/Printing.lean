import ReadOnce.Proofs.Json
import ReadOnce.Proofs.Json.Reading

/-!
What is printed is one of the forms, so it is read back as what it is.
-/
namespace ReadOnce.Json

def HexDigit.print (value : Fin 16) : HexDigit := ⟨Text.Hex.digit value, value, Text.Hex.value?_digit value.isLt⟩

/-- The four digits of a number. -/
def Quad.print (number : Nat) : Quad :=
  let place (weight : Nat) : HexDigit := .print ⟨number / Nat.pow 16 weight % 16, Nat.mod_lt _ (by decide)⟩
  ⟨place 3, place 2, place 1, place 0⟩

theorem Quad.number_print {number : Nat} (small : number < 0x10000) : (print number).number = number := by
  show ((number / 16 ^ 3 % 16 * 16 + number / 16 ^ 2 % 16) * 16 + number / 16 ^ 1 % 16) * 16 +
    number / 16 ^ 0 % 16 = number
  omega

theorem Glyph.exists_print (char : Char) : ∃ glyph : Glyph, glyph.chars = escape char ∧ glyph.char = char := by
  fun_cases escape char with
  | case1 => exact ⟨.letter '"' '"' rfl, rfl, rfl⟩
  | case2 => exact ⟨.letter '\\' '\\' rfl, rfl, rfl⟩
  | case3 => exact ⟨.letter 'b' '\x08' rfl, rfl, rfl⟩
  | case4 => exact ⟨.letter 'f' '\x0c' rfl, rfl, rfl⟩
  | case5 => exact ⟨.letter 'n' '\n' rfl, rfl, rfl⟩
  | case6 => exact ⟨.letter 'r' '\r' rfl, rfl, rfl⟩
  | case7 => exact ⟨.letter 't' '\t' rfl, rfl, rfl⟩
  | case8 _ _ _ _ _ _ _ _ control =>
    exact ⟨.unit (.print char.toNat) char (Quad.number_print (by omega)), rfl, rfl⟩
  | case9 _ quoted slashed _ _ _ _ _ printed =>
    exact ⟨.plain char (Nat.not_lt.mp printed) quoted slashed, rfl, rfl⟩

theorem Phrase.exists_print (text : String) :
    ∃ phrase : Phrase, phrase.chars = (quote text).toList ∧ phrase.text = text := by
  have written (chars : List Char) :
      ∃ glyphs : List Glyph, glyphs.flatMap Glyph.chars = chars.flatMap escape ∧ glyphs.map Glyph.char = chars := by
    induction chars with
    | nil => exact ⟨[], rfl, rfl⟩
    | cons char rest ih =>
      obtain ⟨glyphs, escaped, means⟩ := ih
      obtain ⟨glyph, first, same⟩ := Glyph.exists_print char
      refine ⟨glyph :: glyphs, ?_, ?_⟩
      · rw [List.flatMap_cons, List.flatMap_cons, first, escaped]
      · rw [List.map_cons, same, means]
  obtain ⟨glyphs, escaped, means⟩ := written text.toList
  refine ⟨⟨glyphs⟩, ?_, ?_⟩
  · rw [chars, escaped, quote, quoteChars, String.toList_ofList]
  · rw [Phrase.text, means, String.ofList_toList]

theorem Heading.exists_print (name : String) :
    ∃ heading : Heading, heading.chars = (quote name).toList ++ [':'] ∧ heading.name.text = name := by
  obtain ⟨phrase, printed, means⟩ := Phrase.exists_print name
  refine ⟨⟨.none, phrase, .none⟩, ?_, means⟩
  rw [← printed]
  rfl

/-- A text is read back. -/
theorem read_quote (limits : Limits) (text : String) :
    read limits (.ofString (quote text)) = .ok (.str (.ofString text)) := by
  obtain ⟨phrase, printed, means⟩ := Phrase.exists_print text
  let document : Document := ⟨.none, .text phrase, .none⟩
  have same : document.text = quote text := by
    rw [← String.toList_inj, ← printed, Document.text, String.toList_ofList]
    exact List.append_nil phrase.chars
  have fits : document.Fits limits := ⟨Nat.zero_le limits.levels, trivial⟩
  rw [← same, Document.read_text fits, ← means]
  rfl

end ReadOnce.Json
