import ReadOnce.Proofs.Store.Interruption

/-!
Stores that differ in one value. No call that writes, reads or removes the value, and no call about other keys, is
answered by more than whether it is there; so what two such stores show differs in nothing else.
-/
namespace ReadOnce.Store

/-- The same is kept under all keys but one, and under that one too, but for the value. -/
structure Shelf.Veiled (key : String) (left right : Shelf) : Prop where
  here : (left.find? key).map (·.expires) = (right.find? key).map (·.expires)
  others : ∀ other, other ≠ key → left.find? other = right.find? other

namespace Shelf.Veiled

variable {key : String} {left right : Shelf}

theorem refl (key : String) (shelf : Shelf) : Veiled key shelf shelf := ⟨rfl, fun _ _ => rfl⟩

/-- Both sides have the same keys, and what is kept under them expires at the same times. -/
theorem expires (veiled : Veiled key left right) (other : String) :
    (left.find? other).map (·.expires) = (right.find? other).map (·.expires) := by
  by_cases named : other = key
  · rw [named]
    exact veiled.here
  · rw [veiled.others other named]

/-- Under every key there is an entry on both sides, which expires at the same time, or on neither. -/
theorem cases (veiled : Veiled key left right) (other : String) :
    (left.find? other = none ∧ right.find? other = none) ∨
      ∃ entry twin, left.find? other = some entry ∧ right.find? other = some twin ∧ entry.expires = twin.expires := by
  have same := veiled.expires other
  cases one : left.find? other with
  | none =>
    cases two : right.find? other with
    | none => exact .inl ⟨rfl, rfl⟩
    | some twin =>
      rw [one, two] at same
      cases same
  | some entry =>
    cases two : right.find? other with
    | none =>
      rw [one, two] at same
      cases same
    | some twin =>
      rw [one, two] at same
      exact .inr ⟨entry, twin, rfl, rfl, Option.some.inj same⟩

theorem erase (veiled : Veiled key left right) (other : String) :
    Veiled key (left.erase other) (right.erase other) := by
  constructor
  · rw [find?_erase, find?_erase]
    by_cases same : key = other
    · rw [if_pos same, if_pos same]
    · rw [if_neg same, if_neg same]
      exact veiled.here
  · intro name apart
    rw [find?_erase, find?_erase, veiled.others name apart]

theorem insert_here (veiled : Veiled key left right) {entry twin : Entry} (same : entry.expires = twin.expires) :
    Veiled key (left.insert key entry) (right.insert key twin) := by
  constructor
  · rw [find?_insert, find?_insert, if_pos rfl, if_pos rfl]
    exact congrArg some same
  · intro name away
    rw [find?_insert, find?_insert, if_neg away, if_neg away]
    exact veiled.others name away

theorem insert (veiled : Veiled key left right) {other : String} (apart : other ≠ key) (entry : Entry) :
    Veiled key (left.insert other entry) (right.insert other entry) := by
  constructor
  · rw [find?_insert, find?_insert, if_neg apart.symm, if_neg apart.symm]
    exact veiled.here
  · intro name away
    rw [find?_insert, find?_insert, veiled.others name away]

end Shelf.Veiled

theorem Entry.isLive_congr {left right : Entry} (same : left.expires = right.expires) (now : Instant) :
    left.isLive now = right.isLive now := by
  rw [isLive, isLive, same]

/-- Whether something was found, if the call was answered. -/
def found (answer : Except StoreFault (Option String)) : Except StoreFault Bool := answer.map Option.isSome

/-- A store that tells no more of a value than whether it is there. -/
structure KeyValueStore.Discreet {σ : Type} (store : KeyValueStore σ) (key : String) (veiled : σ → σ → Prop) :
    Prop where
  put (now : Instant) (one other : String) (duration : Duration) {left right : σ} (start : veiled left right) :
    (store.put now key one duration left).1 = (store.put now key other duration right).1 ∧
      veiled (store.put now key one duration left).2 (store.put now key other duration right).2
  get (now : Instant) {left right : σ} (start : veiled left right) :
    found (store.get now key left).1 = found (store.get now key right).1 ∧
      veiled (store.get now key left).2 (store.get now key right).2
  delete (now : Instant) (other : String) {left right : σ} (start : veiled left right) :
    (store.delete now other left).1 = (store.delete now other right).1 ∧
      veiled (store.delete now other left).2 (store.delete now other right).2
  increment (now : Instant) {other : String} (apart : other ≠ key) (duration : Option Duration) {left right : σ}
      (start : veiled left right) :
    (store.increment now other duration left).1 = (store.increment now other duration right).1 ∧
      veiled (store.increment now other duration left).2 (store.increment now other duration right).2

namespace Memory

variable {key : String} {left right : Memory}

private theorem visit_veiled (veiled : left.shelf.Veiled key right.shelf) (now : Instant) (other : String) :
    let first := left.visit now other
    let second := right.visit now other
    first.1.map (·.expires) = second.1.map (·.expires) ∧ (other ≠ key → first.1 = second.1) ∧
      first.2.shelf.Veiled key second.2.shelf := by
  have equal := veiled.others other
  simp only [visit]
  rcases veiled.cases other with ⟨one, two⟩ | ⟨entry, twin, one, two, expires⟩
  · rw [one, two]
    exact ⟨rfl, fun _ => rfl, veiled⟩
  · rw [one, two] at equal ⊢
    dsimp only
    rw [Entry.isLive_congr expires now]
    split
    · exact ⟨congrArg some expires, equal, veiled⟩
    · exact ⟨rfl, fun _ => rfl, veiled.erase other⟩

theorem put_veiled (veiled : left.shelf.Veiled key right.shelf) (now : Instant) (one other : String)
    (duration : Duration) :
    (left.put now key one duration).1 = (right.put now key other duration).1 ∧
      (left.put now key one duration).2.shelf.Veiled key (right.put now key other duration).2.shelf := by
  simp only [put]
  cases expiry now duration with
  | error fault => exact ⟨rfl, veiled⟩
  | ok due => exact ⟨rfl, veiled.insert_here rfl⟩

theorem get_veiled (veiled : left.shelf.Veiled key right.shelf) (now : Instant) :
    found (left.get now key).1 = found (right.get now key).1 ∧
      (left.get now key).2.shelf.Veiled key (right.get now key).2.shelf := by
  obtain ⟨same, _, later⟩ := visit_veiled veiled now key
  refine ⟨?_, later⟩
  simp only [get, found, Except.map]
  rw [Option.isSome_map, Option.isSome_map, ← Option.isSome_map (f := Entry.expires), same, Option.isSome_map]

theorem delete_veiled (veiled : left.shelf.Veiled key right.shelf) (now : Instant) (other : String) :
    (left.delete now other).1 = (right.delete now other).1 ∧
      (left.delete now other).2.shelf.Veiled key (right.delete now other).2.shelf := by
  obtain ⟨same, _, later⟩ := visit_veiled veiled now other
  simp only [delete]
  generalize left.visit now other = first at same later
  generalize right.visit now other = second at same later
  rcases first with ⟨_ | entry, one⟩ <;> rcases second with ⟨_ | twin, two⟩
  · exact ⟨rfl, later⟩
  · cases same
  · cases same
  · exact ⟨rfl, later.erase other⟩

theorem increment_veiled (veiled : left.shelf.Veiled key right.shelf) (now : Instant) {other : String}
    (apart : other ≠ key) (duration : Option Duration) :
    (left.increment now other duration).1 = (right.increment now other duration).1 ∧
      (left.increment now other duration).2.shelf.Veiled key (right.increment now other duration).2.shelf := by
  obtain ⟨_, same, later⟩ := visit_veiled veiled now other
  have equal := same apart
  simp only [increment]
  generalize left.visit now other = first at equal later
  generalize right.visit now other = second at equal later
  obtain ⟨entry, one⟩ := first
  obtain ⟨twin, two⟩ := second
  obtain rfl : entry = twin := equal
  cases entry with
  | none =>
    dsimp only
    cases counterExpiry now duration with
    | error fault => exact ⟨rfl, later⟩
    | ok expires => exact ⟨rfl, later.insert apart _⟩
  | some entry =>
    dsimp only
    cases nextCount entry.value with
    | error fault => exact ⟨rfl, later⟩
    | ok next => exact ⟨rfl, later.insert apart _⟩

end Memory

namespace Table

/-- Two tables that are reached alike, whose rows differ in one value. -/
structure Veiled (key : String) (left right : Table) : Prop where
  reach : left.reach = right.reach
  conflicts : left.conflicts = right.conflicts
  rows : left.rows.Veiled key right.rows

variable {key : String} {left right : Table}

private theorem Veiled.within {α β : Type} (veiled : Veiled key left right) (name : String)
    {first second : Shelf → Except StoreFault α × Shelf} (view : Except StoreFault α → β)
    (same : view (first left.rows).1 = view (second right.rows).1)
    (later : (first left.rows).2.Veiled key (second right.rows).2) :
    view (left.within name first).1 = view (right.within name second).1 ∧
      Veiled key (left.within name first).2 (right.within name second).2 := by
  unfold Table.within
  rw [veiled.reach]
  cases right.reach with
  | ready => exact ⟨same, rfl, veiled.conflicts, later⟩
  | tableMissing | unreachable => exact ⟨rfl, veiled⟩

private theorem incrementRow_veiled {left right : Shelf} (veiled : left.Veiled key right) (now : Instant)
    {other : String} (apart : other ≠ key) (expires : Option Instant) :
    (incrementRow now other expires left).1 = (incrementRow now other expires right).1 ∧
      (incrementRow now other expires left).2.Veiled key (incrementRow now other expires right).2 := by
  simp only [incrementRow, veiled.others other apart]
  cases (right.find? other).filter (·.isLive now) with
  | none => exact ⟨rfl, veiled.insert apart _⟩
  | some entry =>
    dsimp only
    cases nextCount entry.value with
    | error fault => exact ⟨rfl, veiled⟩
    | ok next => exact ⟨rfl, veiled.insert apart _⟩

theorem Veiled.put (veiled : Veiled key left right) (now : Instant) (one other : String) (duration : Duration) :
    (left.put now key one duration).1 = (right.put now key other duration).1 ∧
      Veiled key (left.put now key one duration).2 (right.put now key other duration).2 := by
  simp only [Table.put]
  cases expiry now duration with
  | error fault => exact ⟨rfl, veiled⟩
  | ok due => exact veiled.within "put" id rfl (veiled.rows.insert_here rfl)

theorem Veiled.get (veiled : Veiled key left right) (now : Instant) :
    found (left.get now key).1 = found (right.get now key).1 ∧
      Veiled key (left.get now key).2 (right.get now key).2 := by
  apply veiled.within "get" found ?_ veiled.rows
  dsimp only
  rcases veiled.rows.cases key with ⟨one, two⟩ | ⟨entry, twin, one, two, expires⟩
  · rw [one, two]
  · rw [one, two, Option.filter_some, Option.filter_some, Entry.isLive_congr expires now]
    split <;> rfl

theorem Veiled.delete (veiled : Veiled key left right) (now : Instant) (other : String) :
    (left.delete now other).1 = (right.delete now other).1 ∧
      Veiled key (left.delete now other).2 (right.delete now other).2 := by
  apply veiled.within "delete" id
  · rcases veiled.rows.cases other with ⟨one, two⟩ | ⟨entry, twin, one, two, expires⟩
    · rw [one, two]
    · rw [one, two]
      dsimp only
      rw [Entry.isLive_congr expires now]
  · rcases veiled.rows.cases other with ⟨one, two⟩ | ⟨entry, twin, one, two, _⟩
    · rw [one, two]
      exact veiled.rows
    · rw [one, two]
      exact veiled.rows.erase other

theorem Veiled.increment (veiled : Veiled key left right) (now : Instant) {other : String} (apart : other ≠ key)
    (duration : Option Duration) :
    (left.increment now other duration).1 = (right.increment now other duration).1 ∧
      Veiled key (left.increment now other duration).2 (right.increment now other duration).2 := by
  simp only [Table.increment, veiled.conflicts]
  cases counterExpiry now duration with
  | error fault => exact ⟨rfl, veiled⟩
  | ok expires =>
    dsimp only
    split
    · exact ⟨rfl, veiled.reach, rfl, veiled.rows⟩
    · have calm : Veiled key { left with conflicts := 0 } { right with conflicts := 0 } :=
        ⟨veiled.reach, rfl, veiled.rows⟩
      obtain ⟨same, later⟩ := incrementRow_veiled veiled.rows now apart expires
      exact calm.within "increment" id same later

end Table

namespace Backend

/-- Two stores of one kind that differ in one value. -/
def Veiled (key : String) : Backend → Backend → Prop
  | memory left, memory right => left.shelf.Veiled key right.shelf
  | table left, table right => Table.Veiled key left right
  | _, _ => False

theorem Veiled.refl (key : String) (backend : Backend) : Veiled key backend backend := by
  cases backend with
  | memory store => exact Shelf.Veiled.refl key store.shelf
  | table rows => exact ⟨rfl, rfl, .refl key rows.rows⟩

theorem Veiled.shelf {key : String} {left right : Backend} (veiled : Veiled key left right) :
    left.shelf.Veiled key right.shelf := by
  cases left with
  | memory one =>
    cases right with
    | memory other => exact veiled
    | table other => exact veiled.elim
  | table one =>
    cases right with
    | memory other => exact veiled.elim
    | table other => exact veiled.rows

private theorem Veiled.call {α β : Type} {key : String} {left right : Backend} (veiled : Veiled key left right)
    (view : Except StoreFault α → β) {inOne inOther : Memory → Except StoreFault α × Memory}
    {onOne onOther : Table → Except StoreFault α × Table}
    (inMemory : ∀ {one other : Memory}, one.shelf.Veiled key other.shelf →
      view (inOne one).1 = view (inOther other).1 ∧ (inOne one).2.shelf.Veiled key (inOther other).2.shelf)
    (onTable : ∀ {one other : Table}, one.Veiled key other →
      view (onOne one).1 = view (onOther other).1 ∧ (onOne one).2.Veiled key (onOther other).2) :
    view (Backend.call inOne onOne left).1 = view (Backend.call inOther onOther right).1 ∧
      Veiled key (Backend.call inOne onOne left).2 (Backend.call inOther onOther right).2 := by
  cases left with
  | memory one =>
    cases right with
    | memory other => exact inMemory veiled
    | table other => exact veiled.elim
  | table one =>
    cases right with
    | memory other => exact veiled.elim
    | table other => exact onTable veiled

theorem discreet (key : String) : interface.Discreet key (Veiled key) where
  put now one other duration _ _ start :=
    start.call id (Memory.put_veiled · now one other duration) (Table.Veiled.put · now one other duration)
  get now _ _ start := start.call found (Memory.get_veiled · now) (Table.Veiled.get · now)
  delete now other _ _ start := start.call id (Memory.delete_veiled · now other) (Table.Veiled.delete · now other)
  increment now _ apart duration _ _ start :=
    start.call id (Memory.increment_veiled · now apart duration) (Table.Veiled.increment · now apart duration)

end Backend

namespace Interrupted

variable {σ : Type}

/-- The same calls fail on both sides. -/
structure Veiled (veiled : σ → σ → Prop) (left right : Interrupted σ) : Prop where
  plan : left.plan = right.plan
  store : veiled left.store right.store

private theorem Veiled.attempt {α β : Type} {veiled : σ → σ → Prop} {left right : Interrupted σ}
    (start : Veiled veiled left right) {first second : σ → Except StoreFault α × σ} (view : Except StoreFault α → β)
    (same : view (first left.store).1 = view (second right.store).1)
    (later : veiled (first left.store).2 (second right.store).2) :
    view (Interrupted.attempt first left).1 = view (Interrupted.attempt second right).1 ∧
      Veiled veiled (Interrupted.attempt first left).2 (Interrupted.attempt second right).2 := by
  unfold Interrupted.attempt
  rw [start.plan]
  split
  · exact ⟨rfl, rfl, start.store⟩
  · exact ⟨same, rfl, later⟩
  · exact ⟨same, rfl, later⟩

theorem discreet {inner : KeyValueStore σ} {key : String} {veiled : σ → σ → Prop}
    (discreet : inner.Discreet key veiled) :
    (interface inner).Discreet key (Veiled veiled) where
  put now one other duration left right start := by
    obtain ⟨same, later⟩ := discreet.put now one other duration start.store
    exact start.attempt id same later
  get now left right start := by
    obtain ⟨same, later⟩ := discreet.get now start.store
    exact start.attempt found same later
  delete now other left right start := by
    obtain ⟨same, later⟩ := discreet.delete now other start.store
    exact start.attempt id same later
  increment now other apart duration left right start := by
    obtain ⟨same, later⟩ := discreet.increment now apart duration start.store
    exact start.attempt id same later

end Interrupted
end ReadOnce.Store
