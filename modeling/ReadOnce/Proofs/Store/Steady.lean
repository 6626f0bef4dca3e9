import ReadOnce.Proofs.Store.Working

/-!
The stores within the process and the tables of a database, as far as they have no faults of their own: they work, and
stay so. Only a time beyond the calendar or a count that cannot be read or written is still a fault.
-/
namespace ReadOnce.Store

namespace Backend

/-- No call fails for reasons of the store's own, nor will the next increment lose its row to someone else twice. -/
def Steady : Backend → Prop
  | memory _ => True
  | table rows => rows.reach = .ready ∧ rows.conflicts < 2

namespace Steady

variable {state : Backend}

theorem after_put (steady : state.Steady) (now : Instant) (key value : String) (duration : Duration) :
    (interface.put now key value duration state).2.Steady := by
  cases state with
  | memory store => trivial
  | table rows =>
    obtain ⟨ready, calm⟩ := steady
    simp only [interface, call_table, Table.put]
    cases expiry now duration with
    | error fault => exact ⟨ready, calm⟩
    | ok time =>
      simp only [Table.within, ready]
      exact ⟨rfl, calm⟩

theorem after_get (steady : state.Steady) (now : Instant) (key : String) :
    (interface.get now key state).2.Steady := by
  cases state with
  | memory store => trivial
  | table rows =>
    obtain ⟨ready, calm⟩ := steady
    simp only [interface, call_table, Table.get, Table.within, ready]
    exact ⟨rfl, calm⟩

theorem after_delete (steady : state.Steady) (now : Instant) (key : String) :
    (interface.delete now key state).2.Steady := by
  cases state with
  | memory store => trivial
  | table rows =>
    obtain ⟨ready, calm⟩ := steady
    simp only [interface, call_table, Table.delete, Table.within, ready]
    exact ⟨rfl, calm⟩

theorem after_increment (steady : state.Steady) (now : Instant) (key : String) (duration : Option Duration) :
    (interface.increment now key duration state).2.Steady := by
  cases state with
  | memory store => trivial
  | table rows =>
    obtain ⟨ready, calm⟩ := steady
    simp only [interface, call_table, Table.increment, ge_iff_le, if_neg (Nat.not_le.mpr calm)]
    cases counterExpiry now duration with
    | error fault => exact ⟨ready, calm⟩
    | ok expires =>
      simp only [Table.within, ready]
      exact ⟨rfl, Nat.zero_lt_two⟩

theorem answer_get (steady : state.Steady) (now : Instant) (key : String) :
    ∃ answer, (interface.get now key state).1 = .ok answer := by
  cases state with
  | memory store => exact ⟨_, rfl⟩
  | table rows => exact ⟨_, by simp only [interface, call_table, Table.get, Table.within, steady.1]; rfl⟩

theorem answer_delete (steady : state.Steady) (now : Instant) (key : String) :
    ∃ answer, (interface.delete now key state).1 = .ok answer := by
  cases state with
  | memory store =>
    simp only [interface, call_memory, Memory.delete]
    split <;> exact ⟨_, rfl⟩
  | table rows =>
    simp only [interface, call_table, Table.delete, Table.within, steady.1]
    split <;> exact ⟨_, rfl⟩

theorem answer_put (steady : state.Steady) (now : Instant) (key value : String) (duration : Duration) :
    (interface.put now key value duration state).1 = (expiry now duration).map fun _ => () := by
  cases state with
  | memory store =>
    simp only [interface, call_memory, Memory.put]
    cases expiry now duration <;> rfl
  | table rows =>
    simp only [interface, call_table, Table.put]
    cases expiry now duration with
    | error fault => rfl
    | ok time =>
      simp only [Table.within, steady.1]
      rfl

/-- An increment is answered by the count, as far as there is one. -/
theorem answer_increment (steady : state.Steady) {now : Instant} (key : String) {duration : Option Duration}
    {expires : Option Instant} (due : counterExpiry now duration = .ok expires) :
    (interface.increment now key duration state).1 =
      match state.shelf.live? now key with
      | none => .ok 1
      | some entry => (nextCount entry.value).map (·.1) := by
  cases state with
  | memory store =>
    simp only [interface, call_memory, Memory.increment, shelf]
    cases found : store.shelf.live? now key with
    | none =>
      obtain ⟨next, visited, _, _⟩ := Memory.visit_none found
      simp only [visited, due]
    | some entry =>
      simp only [Memory.visit_some found]
      cases nextCount entry.value <;> rfl
  | table rows =>
    obtain ⟨ready, calm⟩ := steady
    simp only [interface, call_table, Table.increment, ge_iff_le, if_neg (Nat.not_le.mpr calm), due, Table.within,
      ready, Table.incrementRow, shelf, ← Shelf.live?.eq_1]
    cases rows.rows.live? now key with
    | none => rfl
    | some entry =>
      dsimp only
      cases nextCount entry.value <;> rfl

end Steady

/-- A store that has counted is in reach, and no one else is left to lose the row to. -/
theorem steady_of_counted {state : Backend} {now : Instant} {key : String} {duration : Option Duration} {count : Int}
    (counted : (interface.increment now key duration state).1 = .ok count) :
    (interface.increment now key duration state).2.Steady := by
  cases state with
  | memory store => trivial
  | table rows =>
    simp only [interface, call_table, Table.increment] at counted ⊢
    cases due : counterExpiry now duration with
    | error fault => simp only [due] at counted; cases counted
    | ok expires =>
      simp only [due] at counted ⊢
      by_cases disputed : rows.conflicts ≥ 2
      · rw [if_pos disputed] at counted
        cases counted
      · rw [if_neg disputed] at counted ⊢
        cases reach : rows.reach with
        | ready =>
          simp only [Table.within]
          exact ⟨rfl, Nat.zero_lt_two⟩
        | tableMissing | unreachable =>
          simp only [Table.within, reach] at counted
          cases counted

theorem working : interface.Working shelf Steady where
  put {now key value duration state} well := by
    refine ⟨fun time due => ?_, well.after_put now key value duration⟩
    rw [well.answer_put, due]
    rfl
  get {now key state} well := ⟨well.answer_get now key, well.after_get now key⟩
  delete {now key state} well := ⟨well.answer_delete now key, well.after_delete now key⟩
  increment {now key duration expires state} well due countable := by
    refine ⟨?_, well.after_increment now key duration⟩
    rw [well.answer_increment key due]
    cases found : state.shelf.live? now key with
    | none => exact ⟨1, rfl⟩
    | some entry =>
      obtain ⟨next, counted⟩ := countable entry found
      exact ⟨next.1, by simp only [counted]; rfl⟩

theorem Steady.increment_fault {state : Backend} {now : Instant} {key : String} {duration : Option Duration}
    {expires : Option Instant} {entry : Entry} {fault : StoreFault} (steady : state.Steady)
    (found : state.shelf.live? now key = some entry) (due : counterExpiry now duration = .ok expires)
    (stuck : nextCount entry.value = .error fault) :
    ∃ next : Backend, interface.increment now key duration state = (.error fault, next) ∧ next.Steady ∧
      Tidied now key state.shelf next.shelf := by
  have same := steady.answer_increment key due
  simp only [found, stuck, Except.map] at same
  have effect := lawful.increment now key duration state
  rw [same] at effect
  exact ⟨_, Prod.ext same rfl, steady.after_increment now key duration, effect.of_fault rfl⟩

end Backend
end ReadOnce.Store
