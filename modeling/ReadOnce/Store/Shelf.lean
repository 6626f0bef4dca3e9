import ReadOnce.Store.Time

/-!
Shelves: entries by key, no key twice. Inserting and erasing change what is found under one key and under no
other.
-/
namespace ReadOnce.Store

/-- A value, with the time from which it counts as gone. -/
structure Entry where
  value : String
  expires : Option Instant
deriving DecidableEq, Repr

def Entry.isLive (entry : Entry) (now : Instant) : Bool :=
  match entry.expires with
  | none => true
  | some time => now < time

structure Shelf where
  entries : List (String × Entry)
  distinct : (entries.map Prod.fst).Nodup

namespace Shelf

def empty : Shelf := ⟨[], List.nodup_nil⟩

instance : Inhabited Shelf := ⟨empty⟩

def find? (shelf : Shelf) (key : String) : Option Entry := shelf.entries.lookup key

/-- The entries whose keys and contents pass a test. -/
def filter (keep : String → Entry → Bool) (shelf : Shelf) : Shelf :=
  ⟨shelf.entries.filter fun (key, entry) => keep key entry,
    shelf.distinct.sublist (List.filter_sublist.map Prod.fst)⟩

def erase (key : String) (shelf : Shelf) : Shelf := shelf.filter fun other _ => other ≠ key

def insert (key : String) (entry : Entry) (shelf : Shelf) : Shelf :=
  ⟨(key, entry) :: (shelf.erase key).entries, by
    refine List.nodup_cons.mpr ⟨?_, (shelf.erase key).distinct⟩
    simp [erase, filter]⟩

@[simp] theorem find?_empty (key : String) : empty.find? key = none := rfl

private theorem lookup_filter_ne (entries : List (String × Entry)) (key other : String) :
    (entries.filter fun row => decide (row.1 ≠ key)).lookup other =
      if other = key then none else entries.lookup other := by
  induction entries with
  | nil => simp
  | cons row rest ih =>
    rw [List.filter_cons]
    by_cases same : row.1 = key <;> by_cases asked : other = row.1
    · rw [if_neg (by simp [same]), ih]; simp [asked, same]
    · have differs : (other == row.1) = false := by simpa using asked
      rw [if_neg (by simp [same]), ih, List.lookup_cons, differs]
    · have found : (other == row.1) = true := by simpa using asked
      have apart : other ≠ key := by rw [asked]; exact same
      rw [if_pos (by simp [same]), List.lookup_cons, List.lookup_cons, found, if_neg apart]
    · have differs : (other == row.1) = false := by simpa using asked
      rw [if_pos (by simp [same]), List.lookup_cons, List.lookup_cons, differs, ih]

theorem find?_erase (shelf : Shelf) (key other : String) :
    (shelf.erase key).find? other = if other = key then none else shelf.find? other :=
  lookup_filter_ne shelf.entries key other

theorem find?_insert (shelf : Shelf) (key other : String) (entry : Entry) :
    (shelf.insert key entry).find? other = if other = key then some entry else shelf.find? other := by
  by_cases same : other = key
  · subst same; simp [insert, find?]
  · have differs : (other == key) = false := by simpa using same
    have kept := find?_erase shelf key other
    simp only [same, if_false, find?] at kept
    simp only [insert, find?, List.lookup_cons, differs, kept, same, if_false]

/-- The entries that are not gone at a time. -/
def live (now : Instant) (shelf : Shelf) : Shelf := shelf.filter fun _ entry => entry.isLive now

/-- The entries in the order of their keys. -/
def sorted (shelf : Shelf) : List (String × Entry) :=
  shelf.entries.mergeSort fun left right => decide (left.1 ≤ right.1)

end Shelf
end ReadOnce.Store
