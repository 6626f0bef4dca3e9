import ReadOnce.Proofs.Json.Form

/-!
From characters to tokens. However a value is written, the lexer finds the tokens that its grammar says; a bare word,
which is a name or a number, becomes one as soon as the next character ends it.
-/
namespace ReadOnce.Json

namespace Lexer

/-- The lexer after several characters. -/
def feed (lexer : Lexer) (chars : List Char) : Lexer := (chars.map CodePoint.char).foldl step lexer

theorem feed_append (lexer : Lexer) (first second : List Char) :
    lexer.feed (first ++ second) = (lexer.feed first).feed second := by
  simp only [feed, List.map_append, List.foldl_append]

theorem feed_cons (lexer : Lexer) (char : Char) (rest : List Char) :
    lexer.feed (char :: rest) = (lexer.step (.char char)).feed rest := rfl

theorem feed_nil (lexer : Lexer) : lexer.feed [] = lexer := rfl

variable {tokens : Array Token} {done : Array CodePoint} {text : WideText.Builder}

private theorem step_digit {count value : Nat} (digit : HexDigit) (more : count < 3) :
    step ⟨.hex text count value, tokens⟩ (.char digit.char) =
      ⟨.hex text (count + 1) (value * 16 + digit.value), tokens⟩ := by
  simp only [step, CodePoint.toChar?, Option.bind_some, digit.means, if_pos more]

theorem feed_quad (quad : Quad) :
    feed ⟨.escape text, tokens⟩ ('u' :: quad.chars) = ⟨.string (text.addUnit (.ofNat quad.number)), tokens⟩ := by
  have opened : step ⟨.escape text, tokens⟩ (.char 'u') = ⟨.hex text 0 0, tokens⟩ := rfl
  rw [Quad.chars, feed_cons, opened, feed_cons, step_digit quad.first (by omega), feed_cons,
    step_digit quad.second (by omega), feed_cons, step_digit quad.third (by omega), feed_cons, feed_nil]
  simp only [step, CodePoint.toChar?, Option.bind_some, quad.fourth.means, Quad.number, Nat.zero_mul, Nat.zero_add]
  rfl

private theorem addUnit_char (char : Char) :
    WideText.Builder.addUnit ⟨done, none⟩ (.ofNat char.toNat) = ⟨done.push (.char char), none⟩ := by
  have outside : ¬ (0xD800 ≤ char.toNat ∧ char.toNat < 0xE000) := by
    have valid := char.valid
    simp only [UInt32.isValidChar, Nat.isValidChar] at valid
    show ¬ (0xD800 ≤ char.val.toNat ∧ char.val.toNat < 0xE000)
    omega
  rw [CodePoint.ofNat, dif_neg outside, Char.ofNat_toNat]
  rfl

private theorem surrogate_ofNat {number : Nat} (inside : 0xD800 ≤ number ∧ number < 0xE000) :
    (CodePoint.ofNat number).toNat = number ∧ (CodePoint.ofNat number).isHigh = decide (number - 0xD800 < 0x400) ∧
      (CodePoint.ofNat number).isLow = decide (0x400 ≤ number - 0xD800) := by
  rw [CodePoint.ofNat, dif_pos inside]
  exact ⟨Nat.add_sub_cancel' inside.1, rfl, rfl⟩

private theorem addUnit_pair {high low : Nat} {char : Char} (isHigh : 0xD800 ≤ high ∧ high < 0xDC00)
    (isLow : 0xDC00 ≤ low ∧ low < 0xE000)
    (means : 0x10000 + (high - 0xD800) * 0x400 + (low - 0xDC00) = char.toNat) :
    (WideText.Builder.addUnit ⟨done, none⟩ (.ofNat high)).addUnit (.ofNat low) = ⟨done.push (.char char), none⟩ := by
  obtain ⟨first, opens, _⟩ := surrogate_ofNat (show 0xD800 ≤ high ∧ high < 0xE000 by omega)
  obtain ⟨second, closes, follows⟩ := surrogate_ofNat (show 0xD800 ≤ low ∧ low < 0xE000 by omega)
  rw [decide_eq_true (show high - 0xD800 < 0x400 by omega)] at opens
  rw [decide_eq_false (show ¬ low - 0xD800 < 0x400 by omega)] at closes
  rw [decide_eq_true (show 0x400 ≤ low - 0xD800 by omega)] at follows
  have joined : (CodePoint.ofNat high).join (CodePoint.ofNat low) = .char char := by
    have outside : ¬ (0xD800 ≤ char.toNat ∧ char.toNat < 0xE000) := by omega
    rw [CodePoint.join, first, second, means, CodePoint.ofNat, dif_neg outside, Char.ofNat_toNat]
  simp only [WideText.Builder.addUnit, opens, closes, follows, if_true, Bool.false_eq_true, if_false, joined]
  rfl

/-- A character of a string is read, in whichever way it is written. -/
theorem feed_glyph (glyph : Glyph) :
    feed ⟨.string ⟨done, none⟩, tokens⟩ glyph.chars = ⟨.string ⟨done.push (.char glyph.char), none⟩, tokens⟩ := by
  have opened (text : WideText.Builder) : step ⟨.string text, tokens⟩ (.char '\\') = ⟨.escape text, tokens⟩ := rfl
  cases glyph with
  | plain char visible unquoted unescaped =>
    have noQuote : CodePoint.char char ≠ .char '"' := fun same => unquoted (CodePoint.char.inj same)
    have noSlash : CodePoint.char char ≠ .char '\\' := fun same => unescaped (CodePoint.char.inj same)
    have wide : ¬ (CodePoint.char char).toNat < 0x20 := Nat.not_lt.mpr visible
    simp only [Glyph.chars, feed_cons, feed_nil, step, if_neg noQuote, if_neg noSlash, if_neg wide]
    rfl
  | letter mark char means =>
    have known : CodePoint.char mark ≠ .char 'u' := by
      intro same
      cases CodePoint.char.inj same
      cases means
    simp only [Glyph.chars, feed_cons, feed_nil, opened]
    simp only [step, if_neg known, CodePoint.toChar?, Option.bind_some, means]
    rfl
  | unit quad char means =>
    rw [Glyph.chars, feed_cons, opened, feed_quad, means, addUnit_char]
    rfl
  | pair high low char isHigh isLow means =>
    rw [Glyph.chars, feed_cons, opened, ← List.cons_append, feed_append, feed_quad, feed_cons, opened, feed_quad,
      addUnit_pair isHigh isLow means]
    rfl

theorem feed_phrase (phrase : Phrase) :
    feed ⟨.between, tokens⟩ phrase.chars = ⟨.between, tokens.push (.text (.ofString phrase.text))⟩ := by
  have body (glyphs : List Glyph) (done : Array CodePoint) :
      feed ⟨.string ⟨done, none⟩, tokens⟩ (glyphs.flatMap Glyph.chars) =
        ⟨.string ⟨done ++ glyphs.map (CodePoint.char ∘ Glyph.char), none⟩, tokens⟩ := by
    induction glyphs generalizing done with
    | nil => simp [feed_nil]
    | cons glyph rest ih => rw [List.flatMap_cons, feed_append, feed_glyph, ih]; simp
  have opened : step ⟨.between, tokens⟩ (.char '"') = ⟨.string .empty, tokens⟩ := rfl
  rw [Phrase.chars, feed_cons, opened, feed_append, WideText.Builder.empty, body]
  simp [feed_cons, feed_nil, step, WideText.Builder.toText, WideText.Builder.points, WideText.ofString, Phrase.text]

end Lexer

namespace Token

private theorem takeWhile_digits {digits rest : List Char} (decimal : ∀ digit ∈ digits, isDigit digit = true)
    (ends : ∀ char ∈ rest.head?, isDigit char = false) : (digits ++ rest).takeWhile isDigit = digits := by
  induction digits with
  | nil =>
    cases rest with
    | nil => rfl
    | cons char rest => exact List.takeWhile_cons_of_neg (by simp [ends char rfl])
  | cons digit digits ih =>
    rw [List.cons_append, List.takeWhile_cons_of_pos (decimal digit List.mem_cons_self),
      ih fun other member => decimal other (List.mem_cons_of_mem digit member)]

private theorem head?_ne {digits rest : List Char} {char : Char} (nonempty : digits ≠ [])
    (decimal : ∀ digit ∈ digits, isDigit digit = true) (other : isDigit char = false) :
    (digits ++ rest).head? ≠ some char := by
  intro same
  obtain ⟨digit, more, rfl⟩ := List.exists_cons_of_ne_nil nonempty
  obtain rfl : digit = char := Option.some.inj same
  rw [decimal digit List.mem_cons_self] at other
  cases other

end Token

private theorem Exponent.head?_chars (exponent : Option Exponent) :
    ∀ char ∈ ((exponent.map Exponent.chars).getD []).head?, Token.isDigit char = false ∧ char ≠ '.' := by
  intro char member
  cases exponent with
  | none => cases member
  | some exponent =>
    obtain rfl : exponent.mark = char := Option.some.inj member
    rcases exponent.marked with small | large
    · rw [small]
      decide
    · rw [large]
      decide

theorem Exponent.exponent_chars (exponent : Exponent) : Token.exponent exponent.chars = (some exponent.power, []) := by
  obtain ⟨mark, sign, digits, marked, signed, nonempty, decimal⟩ := exponent
  have alone := @Token.takeWhile_digits digits [] decimal nofun
  rw [List.append_nil] at alone
  have counted : digits.drop digits.length = [] := List.drop_length
  cases sign with
  | none =>
    have plus := @Token.head?_ne digits [] '+' nonempty decimal rfl
    have minus := @Token.head?_ne digits [] '-' nonempty decimal rfl
    rw [List.append_nil] at plus minus
    simp only [chars, power, Token.exponent, Option.toList_none, List.nil_append, if_pos marked, plus, minus, or_self,
      if_false, alone, counted, reduceCtorEq]
  | some sign =>
    have known : some sign = some '+' ∨ some sign = some '-' := by
      rcases signed sign rfl with rfl | rfl
      · exact .inl rfl
      · exact .inr rfl
    simp only [chars, power, Token.exponent, Option.toList_some, List.singleton_append, if_pos marked, List.head?_cons,
      if_pos known, List.drop_succ_cons, List.drop_zero, alone, counted]
    rfl

namespace Number

variable (number : Number)

/-- What follows the whole part. -/
private def tail : List Char :=
  (if number.fraction = [] then [] else '.' :: number.fraction) ++ (number.exponent.map Exponent.chars).getD []

private theorem head?_tail : ∀ char ∈ number.tail.head?, Token.isDigit char = false := by
  intro char member
  unfold tail at member
  split at member
  · exact (Exponent.head?_chars number.exponent char member).1
  · obtain rfl : '.' = char := Option.some.inj member
    rfl

private theorem fraction_tail :
    Token.fraction number.tail = (number.fraction, (number.exponent.map Exponent.chars).getD []) := by
  have ends := Exponent.head?_chars number.exponent
  unfold tail
  split
  · next none =>
    rw [none, List.nil_append]
    generalize (number.exponent.map Exponent.chars).getD [] = rest at ends
    unfold Token.fraction
    split
    · exact absurd rfl (ends '.' rfl).2
    · rfl
  · next some =>
    have run := Token.takeWhile_digits number.places fun char member => (ends char member).1
    simp only [List.cons_append, Token.fraction, run, List.drop_left]

/-- A number is read to its end. -/
theorem number?_chars : Token.number? number.chars = some (number.token, []) := by
  have parts : number.chars = (if number.negative then ['-'] else []) ++ (number.whole ++ number.tail) := rfl
  have unsigned := @Token.head?_ne number.whole number.tail '-' number.nonempty number.decimal rfl
  have sign : number.chars.head? = some '-' ↔ number.negative = true := by
    rw [parts]
    cases number.negative with
    | true => exact iff_of_true rfl rfl
    | false => exact iff_of_false unsigned Bool.false_ne_true
  have body :
      (if number.negative = true then number.chars.drop 1 else number.chars) = number.whole ++ number.tail := by
    rw [parts]
    cases number.negative with
    | true => rfl
    | false => rfl
  have whole : (if (number.whole ++ number.tail).head? = some '0' then ['0']
      else (number.whole ++ number.tail).takeWhile Token.isDigit) = number.whole := by
    split
    · next zero =>
      obtain ⟨digit, more, same⟩ := List.exists_cons_of_ne_nil number.nonempty
      rw [same, List.cons_append, List.head?_cons] at zero
      exact (number.short (by rw [same, List.head?_cons, zero])).symm
    · exact Token.takeWhile_digits number.decimal number.head?_tail
  have given : number.whole.isEmpty = false := List.isEmpty_eq_false_iff.mpr number.nonempty
  simp only [Token.number?, sign, body, whole, given, Bool.false_eq_true, if_false, List.drop_left, fraction_tail,
    Bool.decide_eq_true]
  unfold token
  cases number.exponent with
  | some exponent => simp only [Option.map_some, Option.getD_some, exponent.exponent_chars]
  | none =>
    simp only [Option.map_none, Option.getD_none, Token.exponent, List.isEmpty_iff]
    split <;> rfl

end Number

/-- The text of a bare word: it ends neither at a blank nor at a mark within itself. -/
def Lexer.Unbroken (chars : List Char) : Prop := ∀ char ∈ chars, endsBare char = false

theorem Lexer.feed_unbroken {chars : List Char} (nonempty : chars ≠ []) (unbroken : Unbroken chars)
    (tokens : Array Token) : feed ⟨.between, tokens⟩ chars = ⟨.bare chars.toArray, tokens⟩ := by
  have onward (rest : List Char) (unbroken : Unbroken rest) (read : Array Char) :
      feed ⟨.bare read, tokens⟩ rest = ⟨.bare (read ++ rest), tokens⟩ := by
    induction rest generalizing read with
    | nil => simp [feed_nil]
    | cons char rest ih =>
      have stays : step ⟨.bare read, tokens⟩ (.char char) = ⟨.bare (read.push char), tokens⟩ := by
        simp only [step, CodePoint.toChar?, Option.getD_some, unbroken char List.mem_cons_self, Bool.false_eq_true,
          if_false]
      rw [feed_cons, stays, ih fun other member => unbroken other (List.mem_cons_of_mem char member)]
      simp
  obtain ⟨char, rest, rfl⟩ := List.exists_cons_of_ne_nil nonempty
  have plain := unbroken char List.mem_cons_self
  simp only [endsBare, Bool.or_eq_false_iff, Option.isSome_eq_false_iff, Option.isNone_iff_eq_none] at plain
  obtain ⟨⟨visible, unquoted⟩, unmarked⟩ := plain
  have begun : step ⟨.between, tokens⟩ (.char char) = ⟨.bare #[char], tokens⟩ := by
    simp only [step, CodePoint.toChar?, Option.getD_some, outside, visible, of_decide_eq_false unquoted, unmarked,
      Bool.false_eq_true, if_false]
  rw [feed_cons, begun, onward rest fun other member => unbroken other (List.mem_cons_of_mem char member)]
  simp

namespace Number

/-- A character of a number. -/
private def isPart (char : Char) : Bool := Token.isDigit char || ['-', '+', '.', 'e', 'E'].contains char

private theorem endsBare_of_isPart {char : Char} (part : isPart char = true) : Lexer.endsBare char = false := by
  have low : char.toNat < 128 := by
    simp only [isPart, Token.isDigit, Bool.or_eq_true, Bool.and_eq_true, decide_eq_true_eq, List.contains_iff_mem,
      Char.le_def, UInt32.le_iff_toNat_le, List.mem_cons, List.not_mem_nil, or_false] at part
    rcases part with ⟨_, small⟩ | rfl | rfl | rfl | rfl | rfl
    · exact Nat.lt_of_le_of_lt small (by decide)
    all_goals decide
  have table : ∀ index : Fin 128, isPart (Char.ofNat index) = true → Lexer.endsBare (Char.ofNat index) = false := by
    decide +kernel
  have found := table ⟨char.toNat, low⟩
  rw [Char.ofNat_toNat] at found
  exact found part

private theorem isPart_digit {char : Char} (decimal : Token.isDigit char = true) : isPart char = true := by
  rw [isPart, decimal, Bool.true_or]

private theorem isPart_exponent (exponent : Exponent) : ∀ char ∈ exponent.chars, isPart char = true := by
  intro char member
  rcases List.mem_cons.mp member with rfl | member
  · rcases exponent.marked with small | large
    · rw [small]
      rfl
    · rw [large]
      rfl
  · rcases List.mem_append.mp member with sign | digit
    · rcases exponent.signed char (Option.mem_toList.mp sign) with rfl | rfl <;> rfl
    · exact isPart_digit (exponent.decimal char digit)

theorem unbroken (number : Number) : Lexer.Unbroken number.chars := by
  intro char member
  apply endsBare_of_isPart
  rcases List.mem_append.mp member with sign | member
  · split at sign
    · rw [List.mem_singleton.mp sign]
      rfl
    · cases sign
  rcases List.mem_append.mp member with whole | member
  · exact isPart_digit (number.decimal char whole)
  rcases List.mem_append.mp member with fraction | power
  · split at fraction
    · cases fraction
    · rcases List.mem_cons.mp fraction with rfl | place
      · rfl
      · exact isPart_digit (number.places char place)
  · cases given : number.exponent with
    | none =>
      rw [given] at power
      cases power
    | some exponent =>
      rw [given] at power
      exact isPart_exponent exponent char power

theorem chars_ne_nil (number : Number) : number.chars ≠ [] := by
  intro empty
  obtain ⟨_, rest⟩ := List.append_eq_nil_iff.mp empty
  exact number.nonempty (List.append_eq_nil_iff.mp rest).1

/-- No name among the values begins with a number, so a number is not taken for one. -/
theorem ofBare_chars (number : Number) : Token.ofBare number.chars = [number.token] := by
  have whole := number.number?_chars
  unfold Token.ofBare
  split
  case h_7 => rw [whole]
  all_goals
    next same =>
      have chars := congrArg String.toList same
      rw [String.toList_ofList] at chars
      rw [chars] at whole
      cases whole

end Number

namespace Word

theorem unbroken (word : Word) : Lexer.Unbroken word.chars := by
  have each : word.chars.all fun char => !Lexer.endsBare char := by cases word <;> rfl
  intro char member
  have found := List.all_eq_true.mp each char member
  rwa [Bool.not_eq_true'] at found

theorem ofBare_chars (word : Word) : Token.ofBare word.chars = [.word word.value] := by
  cases word <;> rfl

theorem chars_ne_nil (word : Word) : word.chars ≠ [] := by
  cases word <;> nofun

end Word

namespace Lexer

/-- Nothing is pending. -/
def idle (tokens : List Token) : Lexer := ⟨.between, tokens.toArray⟩

/-- All tokens up to here are known, but the last may still be a bare word that has not ended. -/
inductive After (tokens : List Token) : Lexer → Prop where
  | idle : After tokens (idle tokens)
  | bare (before : List Token) (chars : Array Char) (same : before ++ Token.ofBare chars.toList = tokens) :
      After tokens ⟨.bare chars, before.toArray⟩

variable {tokens : List Token} {lexer : Lexer} {char : Char}

/-- A bare word has ended when the next character is none of its own. -/
theorem After.step_eq (after : After tokens lexer) (ends : endsBare char = true) :
    lexer.step (.char char) = (Lexer.idle tokens).step (.char char) := by
  cases after with
  | idle => rfl
  | bare before chars same =>
    subst same
    simp only [step, CodePoint.toChar?, Option.getD_some, ends, if_true, Lexer.idle, List.append_toArray]

theorem After.step_blank (after : After tokens lexer) (blank : isBlank char = true) :
    lexer.step (.char char) = Lexer.idle tokens := by
  have ends : endsBare char = true := by rw [endsBare, blank, Bool.true_or, Bool.true_or]
  rw [after.step_eq ends]
  exact if_pos blank

theorem After.step_mark (after : After tokens lexer) {token : Token} (marked : punctuation? char = some token) :
    lexer.step (.char char) = Lexer.idle (tokens ++ [token]) := by
  have ends : endsBare char = true := by rw [endsBare, marked, Option.isSome_some, Bool.or_true]
  rw [after.step_eq ends]
  unfold punctuation? at marked
  split at marked <;> cases marked <;> simp only [Lexer.idle, ← List.push_toArray] <;> rfl

theorem After.feed_blanks (after : After tokens lexer) (blanks : Blanks) :
    After tokens (lexer.feed blanks.chars) := by
  obtain ⟨chars, blank⟩ := blanks
  induction chars generalizing lexer with
  | nil => exact after
  | cons char rest ih =>
    rw [feed_cons, after.step_blank (blank char List.mem_cons_self)]
    exact ih .idle fun other member => blank other (List.mem_cons_of_mem char member)

theorem idle_feed_blanks (blanks : Blanks) : (idle tokens).feed blanks.chars = idle tokens := by
  obtain ⟨chars, blank⟩ := blanks
  induction chars with
  | nil => rfl
  | cons char rest ih =>
    rw [feed_cons, After.idle.step_blank (blank char List.mem_cons_self)]
    exact ih fun other member => blank other (List.mem_cons_of_mem char member)

theorem After.finish_eq (after : After tokens lexer) : lexer.finish = tokens := by
  cases after with
  | idle => rfl
  | bare before chars same => simpa [finish] using same

theorem after_unbroken {chars : List Char} {token : Token} (nonempty : chars ≠ []) (unbroken : Unbroken chars)
    (means : Token.ofBare chars = [token]) : After (tokens ++ [token]) ((idle tokens).feed chars) := by
  rw [idle, feed_unbroken nonempty unbroken]
  exact .bare tokens chars.toArray (by rw [means])

theorem idle_feed_phrase (phrase : Phrase) :
    (idle tokens).feed phrase.chars = idle (tokens ++ [.text (.ofString phrase.text)]) := by
  rw [idle, feed_phrase, List.push_toArray]
  rfl

theorem idle_feed_heading (heading : Heading) :
    (idle tokens).feed heading.chars = idle (tokens ++ [.text (.ofString heading.name.text), .colon]) := by
  rw [Heading.chars, feed_append, idle_feed_blanks, feed_append, idle_feed_phrase, feed_append, idle_feed_blanks,
    feed_cons, After.idle.step_mark rfl, List.append_assoc]
  rfl

end Lexer

mutual

/-- The tokens of a form, in which its blanks and its escapes are no longer seen. -/
def Form.tokens : Form → List Token
  | .word word => [.word word.value]
  | .number number => [number.token]
  | .text phrase => [.text (.ofString phrase.text)]
  | .emptyArray _ => [.beginArray, .endArray]
  | .array _ first _ more => .beginArray :: (first.tokens ++ (more.tokens ++ [.endArray]))
  | .emptyObject _ => [.beginObject, .endObject]
  | .object heading _ first _ more =>
    .beginObject :: .text (.ofString heading.name.text) :: .colon :: (first.tokens ++ (more.tokens ++ [.endObject]))

def Items.tokens : Items → List Token
  | .none => []
  | .item _ form _ more => .comma :: (form.tokens ++ more.tokens)

def Members.tokens : Members → List Token
  | .none => []
  | .member heading _ form _ more =>
    .comma :: .text (.ofString heading.name.text) :: .colon :: (form.tokens ++ more.tokens)

end

open Lexer in
mutual

theorem Form.after_chars : (form : Form) → (tokens : List Token) →
    After (tokens ++ form.tokens) ((idle tokens).feed form.chars)
  | .word word, tokens => after_unbroken word.chars_ne_nil word.unbroken word.ofBare_chars
  | .number number, tokens => after_unbroken number.chars_ne_nil number.unbroken number.ofBare_chars
  | .text phrase, tokens => by
    rw [Form.chars, idle_feed_phrase]
    exact .idle
  | .emptyArray inside, tokens => by
    rw [Form.chars, feed_cons, After.idle.step_mark rfl, feed_append, idle_feed_blanks, feed_cons,
      After.idle.step_mark rfl, List.append_assoc]
    exact .idle
  | .array before first after more, tokens => by
    rw [Form.chars, feed_cons, After.idle.step_mark rfl, feed_append, idle_feed_blanks, feed_append, feed_append,
      feed_append, feed_cons]
    have read := (Form.after_chars first (tokens ++ [.beginArray])).feed_blanks after
    rw [(Items.after_chars more read).step_mark rfl]
    simp only [List.append_assoc, List.singleton_append]
    exact .idle
  | .emptyObject inside, tokens => by
    rw [Form.chars, feed_cons, After.idle.step_mark rfl, feed_append, idle_feed_blanks, feed_cons,
      After.idle.step_mark rfl, List.append_assoc]
    exact .idle
  | .object heading before first after more, tokens => by
    rw [Form.chars, feed_cons, After.idle.step_mark rfl, feed_append, idle_feed_heading, feed_append, idle_feed_blanks,
      feed_append, feed_append, feed_append, feed_cons]
    have read := (Form.after_chars first (tokens ++ [.beginObject] ++
      [.text (.ofString heading.name.text), .colon])).feed_blanks after
    rw [(Members.after_chars more read).step_mark rfl]
    simp only [List.append_assoc, List.cons_append, List.nil_append]
    exact .idle

theorem Items.after_chars : (items : Items) → {tokens : List Token} → {lexer : Lexer} → After tokens lexer →
    After (tokens ++ items.tokens) (lexer.feed items.chars)
  | .none, tokens, lexer, ended => by
    rw [Items.tokens, List.append_nil]
    exact ended
  | .item before form after more, tokens, lexer, ended => by
    rw [Items.chars, feed_cons, ended.step_mark rfl, feed_append, idle_feed_blanks, feed_append, feed_append]
    have read := (Form.after_chars form (tokens ++ [.comma])).feed_blanks after
    have next := Items.after_chars more read
    simp only [List.append_assoc, List.singleton_append] at next
    exact next

theorem Members.after_chars : (members : Members) → {tokens : List Token} → {lexer : Lexer} → After tokens lexer →
    After (tokens ++ members.tokens) (lexer.feed members.chars)
  | .none, tokens, lexer, ended => by
    rw [Members.tokens, List.append_nil]
    exact ended
  | .member heading before form after more, tokens, lexer, ended => by
    have read := (Form.after_chars form (tokens ++ [.comma] ++
      [.text (.ofString heading.name.text), .colon])).feed_blanks after
    have joined : tokens ++ (Members.member heading before form after more).tokens = tokens ++ [.comma] ++
        [.text (.ofString heading.name.text), .colon] ++ form.tokens ++ more.tokens := by
      simp only [Members.tokens, List.append_assoc, List.cons_append, List.nil_append]
    rw [Members.chars, feed_cons, ended.step_mark rfl, feed_append, idle_feed_heading, feed_append, idle_feed_blanks,
      feed_append, feed_append, joined]
    exact Members.after_chars more read

end

/-- The tokens of a document are those of its value. -/
theorem Document.ofText_text (document : Document) :
    Token.ofText (.ofString document.text) = document.root.tokens := by
  have read := (Form.after_chars document.root []).feed_blanks document.after
  rw [List.nil_append] at read
  have lexed : Token.ofText (.ofString document.text) = (Lexer.feed Lexer.start document.text.toList).finish := rfl
  have begun : Lexer.start = Lexer.idle [] := rfl
  rw [lexed, begun, Document.text, String.toList_ofList, Lexer.feed_append, Lexer.idle_feed_blanks, Lexer.feed_append]
  exact read.finish_eq

end ReadOnce.Json
