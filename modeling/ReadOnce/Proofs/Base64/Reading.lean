import ReadOnce.Proofs.Base64

/-!
What base64 can be read: symbols of the alphabet, and after them as many pads as fit. Four symbols give three bytes, so
the number of symbols and the number of bytes fix each other wherever the last quad is not a single symbol.
-/
namespace ReadOnce.Base64

/-- The symbols in the order of their values. -/
def alphabet : List Char := "ABCDEFGHIJKLMNOPQRSTUVWXYZabcdefghijklmnopqrstuvwxyz0123456789+/".toList

theorem alphabet_eq : alphabet = (List.range 64).map symbol := by decide +kernel

theorem value?_eq_some_iff {char : Char} {value : Nat} :
    value? char = some value ↔ value < 64 ∧ symbol value = char := by
  constructor
  · intro found
    have ascii : char.toNat < 128 := by
      unfold value? at found
      simp only [Char.le_def, UInt32.le_iff_toNat_le] at found
      repeat' split at found
      · next upper => exact Nat.lt_of_le_of_lt upper.2 (by decide)
      · next lower => exact Nat.lt_of_le_of_lt lower.2 (by decide)
      · next digit => exact Nat.lt_of_le_of_lt digit.2 (by decide)
      · next plus => exact plus ▸ (by decide)
      · next slash => exact slash ▸ (by decide)
      · cases found
    have table : ∀ index : Fin 128, ∀ value ∈ value? (Char.ofNat index),
        value < 64 ∧ symbol value = Char.ofNat index := by decide +kernel
    have same := table ⟨char.toNat, ascii⟩ value
    rw [Char.ofNat_toNat] at same
    exact same found
  · rintro ⟨small, rfl⟩
    exact value?_symbol small

theorem symbol_mem_alphabet {value : Nat} (small : value < 64) : symbol value ∈ alphabet := by
  rw [alphabet_eq]
  exact List.mem_map_of_mem (List.mem_range.mpr small)

theorem exists_values {symbols : List Char} (known : ∀ symbol ∈ symbols, symbol ∈ alphabet) :
    ∃ values : List Nat, (∀ value ∈ values, value < 64) ∧ symbols = values.map symbol := by
  induction symbols with
  | nil => exact ⟨[], nofun, rfl⟩
  | cons first rest ih =>
    obtain ⟨inside, others⟩ := List.forall_mem_cons.mp known
    obtain ⟨values, small, rfl⟩ := ih others
    rw [alphabet_eq] at inside
    obtain ⟨value, below, rfl⟩ := List.mem_map.mp inside
    exact ⟨value :: values, List.forall_mem_cons.mpr ⟨List.mem_range.mp below, small⟩, rfl⟩

theorem eq_map_symbol {symbols : List Char} {values : List Nat} (valued : symbols.mapM value? = some values) :
    (∀ value ∈ values, value < 64) ∧ symbols = values.map symbol := by
  induction symbols generalizing values with
  | nil =>
    cases valued
    exact ⟨nofun, rfl⟩
  | cons first rest ih =>
    rw [List.mapM_cons] at valued
    obtain ⟨value, found, valued⟩ := Option.bind_eq_some_iff.mp valued
    obtain ⟨others, later, same⟩ := Option.bind_eq_some_iff.mp valued
    cases same
    obtain ⟨small, rfl⟩ := ih later
    obtain ⟨below, rfl⟩ := value?_eq_some_iff.mp found
    exact ⟨List.forall_mem_cons.mpr ⟨below, small⟩, rfl⟩

/-- Three bytes are read from every four digits; what is left over gives one byte less than there are digits. -/
theorem length_flatMap_unquad : (values : List Nat) → ((blocks 4 values).flatMap unquad).length = values.length * 3 / 4
  | [] => by simp
  | [first] => by simp [blocks_short, unquad]
  | [first, second] => by simp [blocks_short, unquad]
  | [first, second, third] => by simp [blocks_short, unquad]
  | first :: second :: third :: fourth :: rest => by
    have cut : blocks 4 (first :: second :: third :: fourth :: rest) =
        [first, second, third, fourth] :: blocks 4 rest :=
      @blocks_append _ 4 [first, second, third, fourth] rest (by decide) rfl
    rw [cut, List.flatMap_cons, List.length_append, length_flatMap_unquad rest]
    simp only [unquad, List.length_cons, List.length_nil]
    omega

/-- A text can be read as so many bytes just where it is symbols of the alphabet, three quarters of whose number this
is, and pads that fit. -/
theorem decode?_iff {text : String} {count : Nat} :
    (∃ bytes, decode? text = some bytes ∧ bytes.length = count) ↔
      ∃ (symbols : List Char) (pads : Nat), text.toList = symbols ++ List.replicate pads '=' ∧
        (∀ symbol ∈ symbols, symbol ∈ alphabet) ∧ padsFit symbols.length pads = true ∧
        symbols.length * 3 / 4 = count := by
  constructor
  · rintro ⟨bytes, read, size⟩
    simp only [decode?] at read
    split at read
    · next fits =>
      obtain ⟨allPads, fit⟩ := Bool.and_eq_true_iff.mp fits
      obtain ⟨values, valued, rfl⟩ := Option.map_eq_some_iff.mp read
      obtain ⟨small, same⟩ := eq_map_symbol valued
      have pads : text.toList.dropWhile (· ≠ '=') = List.replicate (text.toList.dropWhile (· ≠ '=')).length '=' :=
        List.eq_replicate_of_mem fun char member => of_decide_eq_true (List.all_eq_true.mp allPads char member)
      refine ⟨values.map symbol, _, ?_, ?_, same ▸ fit, ?_⟩
      · rw [← pads, ← same]
        exact List.takeWhile_append_dropWhile.symm
      · intro char member
        obtain ⟨value, inside, rfl⟩ := List.mem_map.mp member
        exact symbol_mem_alphabet (small value inside)
      · rw [List.length_map, ← length_flatMap_unquad, size]
    · cases read
  · rintro ⟨symbols, pads, written, known, fit, rfl⟩
    obtain ⟨values, small, rfl⟩ := exists_values known
    rw [List.length_map] at fit ⊢
    refine ⟨_, ?_, length_flatMap_unquad values⟩
    rw [← decode?_symbols small fit, ← written, String.ofList_toList]

end ReadOnce.Base64
