/-!
Cutting a list into blocks of one size, the last of which may be shorter. The blocks joined are the list,
and a full block in front is cut off whole.
-/
namespace ReadOnce

variable {α : Type}

/-- The elements still to be cut, the block under way and the blocks done. -/
def cutBlocks (size : Nat) : List α → Array α → Array (List α) → List (List α)
  | [], block, done => (if block.isEmpty then done else done.push block.toList).toList
  | element :: rest, block, done =>
    if block.size + 1 < size then cutBlocks size rest (block.push element) done
    else cutBlocks size rest #[] (done.push (block.push element).toList)

/-- Blocks of a positive size; the last one holds what is left. -/
def blocks (size : Nat) (elements : List α) : List (List α) := cutBlocks size elements #[] #[]

private theorem cutBlocks_done (size : Nat) (elements : List α) (block : Array α) (done : Array (List α)) :
    cutBlocks size elements block done = done.toList ++ cutBlocks size elements block #[] := by
  induction elements generalizing block done with
  | nil => unfold cutBlocks; split <;> simp
  | cons element rest ih =>
    unfold cutBlocks
    split
    · exact ih _ _
    · rw [ih #[] (done.push _), ih #[] (#[].push _)]; simp

private theorem flatten_cutBlocks (size : Nat) (elements : List α) (block : Array α) :
    (cutBlocks size elements block #[]).flatten = block.toList ++ elements := by
  induction elements generalizing block with
  | nil =>
    unfold cutBlocks
    split
    · rename_i empty; simp_all
    · simp
  | cons element rest ih =>
    unfold cutBlocks
    split
    · simp [ih]
    · rw [cutBlocks_done]; simp [ih]

@[simp] theorem flatten_blocks (size : Nat) (elements : List α) : (blocks size elements).flatten = elements := by
  simp [blocks, flatten_cutBlocks]

@[simp] theorem blocks_nil (size : Nat) : blocks size ([] : List α) = [] := by simp [blocks, cutBlocks]

private theorem cutBlocks_fill {size : Nat} (front rest : List α) (block : Array α) (nonempty : front ≠ [])
    (full : block.size + front.length = size) :
    cutBlocks size (front ++ rest) block #[] = (block.toList ++ front) :: blocks size rest := by
  induction front generalizing block with
  | nil => exact absurd rfl nonempty
  | cons element tail ih =>
    simp only [List.cons_append, cutBlocks]
    simp only [List.length_cons] at full
    split
    · rename_i room
      have more : tail ≠ [] := by rintro rfl; simp at full; omega
      rw [ih (block.push element) more (by simp; omega)]
      simp
    · have last : tail = [] := List.length_eq_zero_iff.mp (by omega)
      subst last
      rw [cutBlocks_done]
      simp [blocks]

theorem blocks_append {size : Nat} {front : List α} (rest : List α) (positive : 0 < size)
    (full : front.length = size) : blocks size (front ++ rest) = front :: blocks size rest := by
  have nonempty : front ≠ [] := by rintro rfl; simp at full; omega
  simpa [blocks] using cutBlocks_fill front rest #[] nonempty (by simpa using full)

private theorem cutBlocks_short {size : Nat} (elements : List α) (block : Array α)
    (short : block.size + elements.length < size) (nonempty : block.toList ++ elements ≠ []) :
    cutBlocks size elements block #[] = [block.toList ++ elements] := by
  induction elements generalizing block with
  | nil =>
    have filled : block.isEmpty = false := by
      cases found : block.isEmpty
      · rfl
      · simp_all
    simp [cutBlocks, filled]
  | cons element rest ih =>
    simp only [List.length_cons] at short
    have room : block.size + 1 < size := by omega
    simp only [cutBlocks, room, if_true]
    rw [ih (block.push element) (by simp; omega) (by simp)]
    simp

theorem blocks_short {size : Nat} {elements : List α} (short : elements.length < size)
    (nonempty : elements ≠ []) : blocks size elements = [elements] := by
  simpa [blocks] using cutBlocks_short elements #[] (by simpa using short) (by simpa using nonempty)

end ReadOnce
