/-! White space: the Unicode property, and the blanks that count as nothing in a text. -/
namespace ReadOnce.Text

/-- The characters with the Unicode property White_Space. -/
def isWhiteSpace (char : Char) : Bool :=
  let code := char.toNat
  (0x09 ≤ code && code ≤ 0x0d) || code = 0x20 || code = 0x85 || code = 0xa0 || code = 0x1680 ||
    (0x2000 ≤ code && code ≤ 0x200a) || code = 0x2028 || code = 0x2029 || code = 0x202f || code = 0x205f ||
    code = 0x3000

/-- White space and the four separators of files, groups, records and units. -/
def isBlankChar (char : Char) : Bool :=
  isWhiteSpace char || (0x1c ≤ char.toNat && char.toNat ≤ 0x1f)

/-- Whether a text holds nothing but blanks. -/
def isBlank (text : String) : Bool := text.toList.all isBlankChar

/-- The characters between the first and the last that are not of a class. -/
def trim (skip : Char → Bool) (chars : List Char) : List Char :=
  ((chars.dropWhile skip).reverse.dropWhile skip).reverse

/-- A text without the blanks at its ends. -/
def strip (text : String) : String := String.ofList (trim isBlankChar text.toList)

theorem isBlankChar_of_isWhiteSpace {char : Char} (white : isWhiteSpace char) : isBlankChar char := by
  simp [isBlankChar, white]

end ReadOnce.Text
