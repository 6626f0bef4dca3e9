import ReadOnce.Message.Check
import ReadOnce.Message.Id
import ReadOnce.Proofs.Base64
import ReadOnce.Proofs.Wire

/-!
The form of what is handed out: ids are canonical, keys are written on 44 characters, and both pass the check that is
made of them when they are presented. On the wire an identifier of that form takes 108 bytes, whatever was drawn.
-/
namespace ReadOnce

namespace Text.Hex

/-- A digit as it is written, in lower case. -/
def isLower (char : Char) : Bool := ('0' ≤ char && char ≤ '9') || ('a' ≤ char && char ≤ 'f')

theorem isLower_digit {value : Nat} (small : value < 16) : isLower (digit value) = true := by
  have table : ∀ index : Fin 16, isLower (digit index) = true := by decide
  exact table ⟨value, small⟩

theorem length_pairs (bytes : Bytes) : (bytes.flatMap pair).length = 2 * bytes.length := by
  induction bytes with
  | nil => rfl
  | cons byte rest ih =>
    rw [List.flatMap_cons, List.length_append, ih, List.length_cons]
    show 2 + 2 * rest.length = 2 * (rest.length + 1)
    omega

theorem isLower_of_mem_pairs {bytes : Bytes} {char : Char} (member : char ∈ bytes.flatMap pair) :
    isLower char = true := by
  obtain ⟨byte, _, inside⟩ := List.mem_flatMap.mp member
  have below := byte.toNat_lt
  rw [pair, List.mem_cons, List.mem_singleton] at inside
  rcases inside with rfl | rfl
  · exact isLower_digit (by omega)
  · exact isLower_digit (by omega)

end Text.Hex

namespace Message

namespace Id

/-- Thirty-two digits in five groups. -/
def grouped (digits : List Char) : String :=
  let group (start count : Nat) : List Char := (digits.drop start).take count
  String.ofList (group 0 8 ++ '-' :: group 8 4 ++ '-' :: group 12 4 ++ '-' :: group 16 4 ++ '-' :: group 20 12)

/-- The form of an id of version 4: lower-case digits in groups, its version and its variant among them. -/
def Canonical (id : String) : Prop :=
  ∃ digits : List Char, digits.length = 32 ∧ (∀ digit ∈ digits, Text.Hex.isLower digit = true) ∧
    digits[12]? = some '4' ∧ (∃ variant ∈ ['8', '9', 'a', 'b'], digits[16]? = some variant) ∧ id = grouped digits

private theorem digit_version (byte : UInt8) : Text.Hex.digit (((byte &&& 0x0f) ||| 0x40).toNat / 16) = '4' := by
  have table : ∀ index : Fin 256, Text.Hex.digit (((UInt8.ofNat index &&& 0x0f) ||| 0x40).toNat / 16) = '4' := by
    decide +kernel
  have same := table ⟨byte.toNat, byte.toNat_lt⟩
  rwa [UInt8.ofNat_toNat] at same

private theorem digit_variant (byte : UInt8) :
    Text.Hex.digit (((byte &&& 0x3f) ||| 0x80).toNat / 16) ∈ ['8', '9', 'a', 'b'] := by
  have table : ∀ index : Fin 256, Text.Hex.digit (((UInt8.ofNat index &&& 0x3f) ||| 0x80).toNat / 16) ∈
      ['8', '9', 'a', 'b'] := by
    decide +kernel
  have same := table ⟨byte.toNat, byte.toNat_lt⟩
  rwa [UInt8.ofNat_toNat] at same

private theorem pairs_high (bytes : Bytes) (place : Nat) :
    (bytes.flatMap Text.Hex.pair)[2 * place]? = bytes[place]?.map fun byte => Text.Hex.digit (byte.toNat / 16) := by
  induction bytes generalizing place with
  | nil => rfl
  | cons byte rest ih =>
    cases place with
    | zero => rfl
    | succ place => exact ih place

theorem canonical_ofBytes {bytes : Bytes} (drawn : bytes.length = length) : Canonical (ofBytes bytes) := by
  have marked : (mark bytes).length = 16 := by rw [mark, List.length_mapIdx, drawn, length]
  have sixth : 6 < bytes.length := drawn ▸ Nat.lt_of_sub_eq_succ rfl
  have eighth : 8 < bytes.length := drawn ▸ Nat.lt_of_sub_eq_succ rfl
  refine ⟨(mark bytes).flatMap Text.Hex.pair, ?_, fun digit => Text.Hex.isLower_of_mem_pairs, ?_, ?_, rfl⟩
  · rw [Text.Hex.length_pairs, marked]
  · have there : bytes[6]? = some bytes[6] := List.getElem?_eq_getElem sixth
    rw [pairs_high (mark bytes) 6, mark, List.getElem?_mapIdx, there, Option.map_some, Option.map_some]
    exact congrArg some (digit_version _)
  · have there : bytes[8]? = some bytes[8] := List.getElem?_eq_getElem eighth
    refine ⟨_, digit_variant bytes[8], ?_⟩
    rw [pairs_high (mark bytes) 8, mark, List.getElem?_mapIdx, there, Option.map_some, Option.map_some]
    rfl

variable {id : String}

theorem Canonical.length_eq (canonical : Canonical id) : id.length = 36 := by
  obtain ⟨digits, many, _, _, _, rfl⟩ := canonical
  rw [grouped, String.length_ofList]
  simp [many]

theorem Canonical.mem (canonical : Canonical id) {char : Char} (member : char ∈ id.toList) :
    char = '-' ∨ Text.Hex.isLower char = true := by
  obtain ⟨digits, _, lower, _, _, rfl⟩ := canonical
  have part (start count : Nat) (inside : char ∈ (digits.drop start).take count) : Text.Hex.isLower char = true :=
    lower char (List.mem_of_mem_drop (List.mem_of_mem_take inside))
  rw [grouped, String.toList_ofList] at member
  simp only [List.mem_append, List.mem_cons] at member
  rcases member with ((((inside | dash | inside) | dash | inside) | dash | inside) | dash | inside)
  all_goals first | exact .inl dash | exact .inr (part _ _ inside)

end Id

namespace Identifier

/-- An identifier as it is handed out: a canonical id, and a key of the length that envelopes take. -/
structure Issued (identifier : Identifier String) (key : Bytes) : Prop where
  canonical : Id.Canonical identifier.messageId
  written : identifier.aesKey = Base64.encode key
  sized : key.length = Envelope.keyLength

variable {identifier : Identifier String} {key : Bytes} {text : String}

/-- A character that stands for itself in a string, takes one byte, and is no blank. -/
private structure Plain (char : Char) : Prop where
  unescaped : Json.escape char = [char]
  ascii : Text.isAscii char = true
  visible : Text.isBlankChar char = false

private theorem plain_lower {char : Char} (lower : Text.Hex.isLower char = true) : Plain char := by
  have ascii : char.toNat < 128 := by
    simp only [Text.Hex.isLower, Bool.or_eq_true, Bool.and_eq_true, decide_eq_true_eq, Char.le_def,
      UInt32.le_iff_toNat_le] at lower
    change _ ∧ char.toNat ≤ 57 ∨ _ ∧ char.toNat ≤ 102 at lower
    omega
  have table : ∀ index : Fin 128, Text.Hex.isLower (Char.ofNat index) = true →
      Json.escape (Char.ofNat index) = [Char.ofNat index] ∧ Text.isBlankChar (Char.ofNat index) = false := by
    decide +kernel
  have found := table ⟨char.toNat, ascii⟩
  rw [Char.ofNat_toNat] at found
  exact ⟨(found lower).1, decide_eq_true ascii, (found lower).2⟩

private theorem plain_symbol {value : Nat} (small : value < 64) : Plain (Base64.symbol value) := by
  have table : ∀ index : Fin 64, Json.escape (Base64.symbol index) = [Base64.symbol index] ∧
      Text.isAscii (Base64.symbol index) = true ∧ Text.isBlankChar (Base64.symbol index) = false := by decide +kernel
  obtain ⟨unescaped, ascii, visible⟩ := table ⟨value, small⟩
  exact ⟨unescaped, ascii, visible⟩

private theorem Issued.plain_id (issued : identifier.Issued key) :
    ∀ char ∈ identifier.messageId.toList, Plain char := by
  intro char member
  rcases issued.canonical.mem member with rfl | lower
  · exact ⟨rfl, rfl, rfl⟩
  · exact plain_lower lower

private theorem Issued.plain_key (issued : identifier.Issued key) : ∀ char ∈ identifier.aesKey.toList, Plain char := by
  intro char member
  rw [issued.written, Base64.toList_encode, List.mem_append] at member
  rcases member with symbol | pad
  · obtain ⟨value, inside, rfl⟩ := List.mem_map.mp symbol
    exact plain_symbol (Base64.sextets_lt key value inside)
  · rw [List.eq_of_mem_replicate pad]
    exact ⟨rfl, rfl, rfl⟩

theorem Issued.length_key (issued : identifier.Issued key) : identifier.aesKey.length = 44 := by
  rw [issued.written, ← String.length_toList, Base64.toList_encode, List.length_append, List.length_map,
    Base64.length_sextets, List.length_replicate, issued.sized]
  rfl

private theorem isBlank_eq_false (plain : ∀ char ∈ text.toList, Plain char) (length : text.length ≠ 0) :
    Text.isBlank text = false := by
  rw [← String.length_toList] at length
  obtain ⟨first, rest, chars⟩ := List.exists_cons_of_length_pos (Nat.pos_of_ne_zero length)
  rw [chars] at plain
  rw [Text.isBlank, chars, List.all_cons, (plain first List.mem_cons_self).visible, Bool.false_and]

/-- The check lets through what was handed out. -/
theorem Issued.accepted (issued : identifier.Issued key) :
    keyOf identifier.messageId identifier.aesKey = .ok key := by
  have id := issued.canonical.length_eq
  have length := issued.length_key
  have visible := isBlank_eq_false issued.plain_id (by omega)
  have shown := isBlank_eq_false issued.plain_key (by omega)
  have short : ¬ idLimit < identifier.messageId.length := by
    rw [id]
    decide
  have brief : ¬ keyLimit < identifier.aesKey.length := by
    rw [length]
    decide
  rw [keyOf, visible, shown, if_neg Bool.false_ne_true, if_neg short, if_neg Bool.false_ne_true, if_neg brief]
  simp only [issued.written, Base64.decode?_encode, issued.sized, if_true]

private theorem toList_quote (plain : ∀ char ∈ text.toList, Plain char) :
    (Json.quote text).toList = '"' :: (text.toList ++ ['"']) := by
  have same : text.toList.flatMap Json.escape = text.toList := by
    generalize text.toList = chars at plain
    induction chars with
    | nil => rfl
    | cons char rest ih =>
      rw [List.flatMap_cons, (plain char List.mem_cons_self).unescaped, List.singleton_append,
        ih fun other member => plain other (List.mem_cons_of_mem char member)]
  rw [Json.quote, String.toList_ofList, Json.quoteChars, same]

/-- How many bytes a request to receive a message takes. -/
def requestSize : Nat := 108

theorem Issued.length_write (issued : identifier.Issued key) :
    (Bytes.ofText identifier.write).length = requestSize := by
  have id := toList_quote issued.plain_id
  have written := toList_quote issued.plain_key
  have first : identifier.messageId.toList.all Text.isAscii = true :=
    List.all_eq_true.mpr fun char member => (issued.plain_id char member).ascii
  have second : identifier.aesKey.toList.all Text.isAscii = true :=
    List.all_eq_true.mpr fun char member => (issued.plain_key char member).ascii
  have ascii : identifier.write.toList.all Text.isAscii = true := by
    simp only [toList_write, id, written, List.all_append, List.all_cons, first, second]
    rfl
  rw [Bytes.length_ofText ascii, ← String.length_toList, toList_write, id, written]
  simp only [List.length_append, List.length_cons, String.length_toList, issued.canonical.length_eq,
    issued.length_key]
  rfl

end Identifier
end Message
end ReadOnce
