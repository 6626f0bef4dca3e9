import ReadOnce.Base64

/-!
Reading what base64 writes gives the bytes back, however many of them fill the last quad.
-/
namespace ReadOnce.Base64

/-- The six-bit digits of bytes, the last of them filled up with zeros. -/
def sextets : Bytes → List Nat
  | [] => []
  | [first] => (digits (first.toNat * 65536)).take 2
  | [first, second] => (digits (first.toNat * 65536 + second.toNat * 256)).take 3
  | first :: second :: third :: rest =>
    digits (first.toNat * 65536 + second.toNat * 256 + third.toNat) ++ sextets rest

/-- How many pads follow the digits of a number of bytes. -/
def padding (length : Nat) : Nat := (3 - length % 3) % 3

private theorem digits_lt {number : Nat} (small : number < 16777216) : ∀ digit ∈ digits number, digit < 64 := by
  intro digit member
  simp only [digits, List.mem_cons, List.not_mem_nil, or_false] at member
  omega

theorem sextets_lt (bytes : Bytes) : ∀ digit ∈ sextets bytes, digit < 64 := by
  fun_induction sextets bytes with
  | case1 => simp
  | case2 first =>
    have small := first.toNat_lt
    intro digit member
    exact digits_lt (by omega) digit (List.mem_of_mem_take member)
  | case3 first second =>
    have small := first.toNat_lt
    have smaller := second.toNat_lt
    intro digit member
    exact digits_lt (by omega) digit (List.mem_of_mem_take member)
  | case4 first second third rest ih =>
    have small := first.toNat_lt
    have smaller := second.toNat_lt
    have smallest := third.toNat_lt
    intro digit member
    rcases List.mem_append.mp member with inFront | later
    · exact digits_lt (by omega) digit inFront
    · exact ih digit later

theorem length_sextets (bytes : Bytes) :
    (sextets bytes).length = bytes.length / 3 * 4 + (if bytes.length % 3 = 0 then 0 else bytes.length % 3 + 1) := by
  fun_induction sextets bytes with
  | case1 => rfl
  | case2 first => simp [digits]
  | case3 first second => simp [digits]
  | case4 first second third rest ih =>
    simp only [List.length_append, ih, digits, List.length_cons, List.length_nil]
    split <;> split <;> omega

theorem toList_encode (bytes : Bytes) :
    (encode bytes).toList =
      (sextets bytes).map symbol ++ List.replicate (padding bytes.length) '=' := by
  rw [encode, String.toList_ofList]
  fun_induction sextets bytes with
  | case1 => simp [padding]
  | case2 first => rw [blocks_short (by simp) (by simp)]; rfl
  | case3 first second => rw [blocks_short (by simp) (by simp)]; rfl
  | case4 first second third rest ih =>
    have cut : blocks 3 (first :: second :: third :: rest) = [first, second, third] :: blocks 3 rest :=
      @blocks_append _ 3 [first, second, third] rest (by decide) rfl
    have same : padding (first :: second :: third :: rest).length = padding rest.length := by
      simp only [padding, List.length_cons]
      omega
    rw [cut, List.flatMap_cons, ih, same, List.map_append, List.append_assoc]
    rfl

private theorem symbol_ne_pad {value : Nat} (small : value < 64) : symbol value ≠ '=' := by
  have table : ∀ index : Fin 64, symbol index ≠ '=' := by decide +kernel
  exact table ⟨value, small⟩

private theorem mapM_value?_symbol (values : List Nat) (small : ∀ value ∈ values, value < 64) :
    (values.map symbol).mapM value? = some values := by
  induction values with
  | nil => rfl
  | cons value rest ih =>
    have first := value?_symbol (small value List.mem_cons_self)
    have later := ih fun other member => small other (List.mem_cons_of_mem value member)
    simp [List.mapM_cons, first, later]

private theorem unquad_digits (first second third : UInt8) :
    unquad (digits (first.toNat * 65536 + second.toNat * 256 + third.toNat)) = [first, second, third] := by
  have small := first.toNat_lt
  have smaller := second.toNat_lt
  have smallest := third.toNat_lt
  generalize number_eq : first.toNat * 65536 + second.toNat * 256 + third.toNat = number
  have one : number / 262144 * 4 + number / 4096 % 64 / 16 = first.toNat := by omega
  have two : number / 4096 % 64 % 16 * 16 + number / 64 % 64 / 4 = second.toNat := by omega
  have three : number / 64 % 64 % 4 * 64 + number % 64 = third.toNat := by omega
  simp only [digits, unquad, one, two, three, UInt8.ofNat_toNat]

private theorem unquad_two (first : UInt8) : unquad ((digits (first.toNat * 65536)).take 2) = [first] := by
  have small := first.toNat_lt
  have one : first.toNat * 65536 / 262144 * 4 + first.toNat * 65536 / 4096 % 64 / 16 = first.toNat := by omega
  simp only [digits, List.take_succ_cons, List.take_zero, unquad, one, UInt8.ofNat_toNat]

private theorem unquad_three (first second : UInt8) :
    unquad ((digits (first.toNat * 65536 + second.toNat * 256)).take 3) = [first, second] := by
  have whole := unquad_digits first second 0
  simp only [digits, UInt8.toNat_zero, Nat.add_zero, unquad, List.cons.injEq] at whole
  simp only [digits, List.take_succ_cons, List.take_zero, unquad, whole.1, whole.2.1]

theorem flatMap_unquad_sextets (bytes : Bytes) : (blocks 4 (sextets bytes)).flatMap unquad = bytes := by
  fun_induction sextets bytes with
  | case1 => simp
  | case2 first =>
    rw [blocks_short (by simp [digits]) (by simp [digits]), List.flatMap_singleton, unquad_two]
  | case3 first second =>
    rw [blocks_short (by simp [digits]) (by simp [digits]), List.flatMap_singleton, unquad_three]
  | case4 first second third rest ih =>
    rw [blocks_append (sextets rest) (by decide) (by simp [digits]), List.flatMap_cons, unquad_digits, ih]
    rfl

theorem padsFit_sextets (bytes : Bytes) : padsFit (sextets bytes).length (padding bytes.length) = true := by
  rw [length_sextets, padding]
  have cases : bytes.length % 3 = 0 ∨ bytes.length % 3 = 1 ∨ bytes.length % 3 = 2 := by omega
  rcases cases with none | one | two
  · simp [none, padsFit]
  · have rest : (bytes.length / 3 * 4 + 2) % 4 = 2 := by omega
    simp [one, padsFit, rest]
  · have rest : (bytes.length / 3 * 4 + 3) % 4 = 3 := by omega
    simp [two, padsFit, rest]

/-- Symbols followed by as many pads as fit are read as the bytes of their values. -/
theorem decode?_symbols {values : List Nat} (small : ∀ value ∈ values, value < 64) {pads : Nat}
    (fit : padsFit values.length pads = true) :
    decode? (String.ofList (values.map symbol ++ List.replicate pads '=')) =
      some ((blocks 4 values).flatMap unquad) := by
  have symbols : ∀ char ∈ values.map symbol, decide (char ≠ '=') = true := by
    intro char member
    obtain ⟨value, inside, rfl⟩ := List.mem_map.mp member
    simpa using symbol_ne_pad (small value inside)
  have front : (values.map symbol ++ List.replicate pads '=').takeWhile (· ≠ '=') = values.map symbol := by
    rw [List.takeWhile_append_of_pos symbols]
    simp
  have back : (values.map symbol ++ List.replicate pads '=').dropWhile (· ≠ '=') = List.replicate pads '=' := by
    rw [List.dropWhile_append_of_pos symbols]
    simp
  simp only [decode?, String.toList_ofList, front, back, List.length_map, List.length_replicate, fit,
    mapM_value?_symbol _ small, Option.map_some]
  simp

theorem decode?_encode (bytes : Bytes) : decode? (encode bytes) = some bytes := by
  have written : encode bytes =
      String.ofList ((sextets bytes).map symbol ++ List.replicate (padding bytes.length) '=') := by
    rw [← toList_encode, String.ofList_toList]
  rw [written, decode?_symbols (sextets_lt bytes) (padsFit_sextets bytes), flatMap_unquad_sextets]

/-- Where the symbols fill whole quads, pads may follow that no writing puts there. -/
theorem decode?_encode_pads {bytes : Bytes} (nonempty : bytes ≠ []) (whole : bytes.length % 3 = 0) (pads : Nat) :
    decode? (encode bytes ++ String.ofList (List.replicate pads '=')) = some bytes := by
  have written : encode bytes ++ String.ofList (List.replicate pads '=') =
      String.ofList ((sextets bytes).map symbol ++ List.replicate pads '=') := by
    have unpadded : padding bytes.length = 0 := by simp [padding, whole]
    apply String.toList_inj.mp
    rw [String.toList_append, toList_encode, unpadded, List.replicate_zero, List.append_nil, String.toList_ofList,
      String.toList_ofList]
  have positive : 0 < bytes.length := List.length_pos_iff.mpr nonempty
  have fit : padsFit (sextets bytes).length pads = true := by
    have size : (sextets bytes).length = bytes.length / 3 * 4 := by
      rw [length_sextets, if_pos whole, Nat.add_zero]
    have quads : bytes.length / 3 * 4 % 4 = 0 := by omega
    simp only [padsFit, size, quads]
    simp
    omega
  rw [written, decode?_symbols (sextets_lt bytes) fit, flatMap_unquad_sextets]

end ReadOnce.Base64
