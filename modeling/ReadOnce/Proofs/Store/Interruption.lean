import ReadOnce.Proofs.Store.Calls

/-!
Stores that are out of reach now and then. A plan says which of the next calls fail before they get to the store;
nothing else about the store changes. Where the calendar and the counters give no cause, being out of reach is the only
fault there is.
-/
namespace ReadOnce.Store

/-- A store, and for each of the next calls the reason why it fails, if it does. -/
structure Interrupted (σ : Type) where
  store : σ
  plan : List (Option String)

/-- The call at a place of a plan, counted from nought, fails, and no call before it does. -/
structure FailsFirst (plan : List (Option String)) (place : Nat) : Prop where
  here : ∃ reason, plan[place]? = some (some reason)
  before : ∀ earlier, earlier < place → ∀ reason, plan[earlier]? ≠ some (some reason)

namespace Interrupted

variable {σ : Type}

/-- Makes the next call, unless it fails on the way. -/
def attempt {α : Type} (act : σ → Except StoreFault α × σ) (state : Interrupted σ) :
    Except StoreFault α × Interrupted σ :=
  match state.plan with
  | some reason :: rest => (.error (.unavailable reason), ⟨state.store, rest⟩)
  | none :: rest => ((act state.store).1, ⟨(act state.store).2, rest⟩)
  | [] => ((act state.store).1, ⟨(act state.store).2, []⟩)

def interface (inner : KeyValueStore σ) : KeyValueStore (Interrupted σ) where
  put now key value duration := attempt (inner.put now key value duration)
  get now key := attempt (inner.get now key)
  delete now key := attempt (inner.delete now key)
  increment now key duration := attempt (inner.increment now key duration)

/-- A call fails as planned and the store is what it was, or it is made as without a plan. -/
theorem attempt_cases {α : Type} (act : σ → Except StoreFault α × σ) (state : Interrupted σ) :
    (∃ reason, state.plan.head? = some (some reason) ∧
        attempt act state = (.error (.unavailable reason), ⟨state.store, state.plan.tail⟩)) ∨
      (∀ reason, state.plan.head? ≠ some (some reason)) ∧
        attempt act state = ((act state.store).1, ⟨(act state.store).2, state.plan.tail⟩) := by
  obtain ⟨store, plan⟩ := state
  match plan with
  | some reason :: rest => exact .inl ⟨reason, rfl, rfl⟩
  | none :: rest => exact .inr ⟨fun reason => nofun, rfl⟩
  | [] => exact .inr ⟨fun reason => nofun, rfl⟩

private theorem attempt_effect {α : Type} {now : Instant} {shelf : σ → Shelf} {act : σ → Except StoreFault α × σ}
    (make : Except StoreFault α → Exchange) (state : Interrupted σ)
    (faulty : ∀ fault, (make (.error fault)).fault?.isSome)
    (acted : Effect now (shelf state.store) (shelf (act state.store).2) (make (act state.store).1)) :
    Effect now (shelf state.store) (shelf (attempt act state).2.store) (make (attempt act state).1) := by
  rcases attempt_cases act state with ⟨reason, _, failed⟩ | ⟨_, made⟩
  · rw [failed]
    exact .refused (faulty _) (.refl now _ _)
  · rw [made]
    exact acted

theorem lawful {inner : KeyValueStore σ} {shelf : σ → Shelf} (lawful : inner.Lawful shelf) :
    (interface inner).Lawful fun state => shelf state.store where
  put now key value duration state :=
    attempt_effect (.put key value duration) state (fun _ => rfl) (lawful.put now key value duration state.store)
  get now key state := attempt_effect (.get key) state (fun _ => rfl) (lawful.get now key state.store)
  delete now key state := attempt_effect (.delete key) state (fun _ => rfl) (lawful.delete now key state.store)
  increment now key duration state :=
    attempt_effect (.increment key duration) state (fun _ => rfl) (lawful.increment now key duration state.store)

end Interrupted

/-- The store could not be reached. -/
def StoreFault.IsOutage (fault : StoreFault) : Prop := ∃ reason, fault = .unavailable reason

/-- There is a next count under a key: no counter is live there, or one that can be read and written on. -/
def Countable (now : Instant) (key : String) (shelf : Shelf) : Prop :=
  ∀ entry, shelf.live? now key = some entry → ∃ next, nextCount entry.value = .ok next

/-- Only outages make the calls of a retrieval fail, as long as there is a next count and a time for it to expire. -/
structure KeyValueStore.Plain {σ : Type} (store : KeyValueStore σ) (shelf : σ → Shelf) : Prop where
  get (now : Instant) (key : String) (state : σ) {fault : StoreFault}
    (failed : (store.get now key state).1 = .error fault) : fault.IsOutage
  delete (now : Instant) (key : String) (state : σ) {fault : StoreFault}
    (failed : (store.delete now key state).1 = .error fault) : fault.IsOutage
  increment {now : Instant} {key : String} {duration : Option Duration} {expires : Option Instant} {state : σ}
    {fault : StoreFault} (due : counterExpiry now duration = .ok expires) (countable : Countable now key (shelf state))
    (failed : (store.increment now key duration state).1 = .error fault) : fault.IsOutage

namespace Table

theorem within_plain {α : Type} {name : String} {table : Table} {transaction : Shelf → Except StoreFault α × Shelf}
    {fault : StoreFault} (sound : ∀ fault, (transaction table.rows).1 = .error fault → fault.IsOutage)
    (failed : (table.within name transaction).1 = .error fault) : fault.IsOutage := by
  unfold within at failed
  cases reach : table.reach with
  | ready =>
    rw [reach] at failed
    exact sound fault failed
  | tableMissing | unreachable =>
    rw [reach] at failed
    cases failed
    exact ⟨_, rfl⟩

/-- Storing fails only where the table is out of reach, as long as there is a time for the entry to expire. -/
theorem put_plain {now time : Instant} {key value : String} {duration : Duration} {table : Table} {fault : StoreFault}
    (due : expiry now duration = .ok time) (failed : (interface.put now key value duration table).1 = .error fault) :
    fault.IsOutage := by
  simp only [interface, put, due] at failed
  apply within_plain _ failed
  intro fault error
  cases error

theorem plain : interface.Plain Table.rows where
  get now key table fault failed := by
    apply within_plain _ failed
    intro fault error
    cases error
  delete now key table fault failed := by
    apply within_plain _ failed
    intro fault error
    split at error <;> cases error
  increment {now key duration expires table fault} due countable failed := by
    simp only [interface, increment, due] at failed
    split at failed
    · cases failed
      exact ⟨_, rfl⟩
    · apply within_plain _ failed
      intro fault error
      simp only [incrementRow, ← Shelf.live?.eq_1] at error
      cases found : table.rows.live? now key with
      | none =>
        rw [found] at error
        cases error
      | some entry =>
        obtain ⟨⟨count, value⟩, next⟩ := countable entry found
        simp only [found, next] at error
        cases error

end Table

theorem Memory.plain : interface.Plain Memory.shelf where
  get now key store fault failed := by cases failed
  delete now key store fault failed := by
    simp only [interface, delete] at failed
    split at failed <;> cases failed
  increment {now key duration expires store fault} due countable failed := by
    simp only [interface, increment] at failed
    cases found : store.shelf.live? now key with
    | none =>
      obtain ⟨_, visited, _⟩ := visit_none found
      simp only [visited, due] at failed
      cases failed
    | some entry =>
      obtain ⟨⟨count, value⟩, next⟩ := countable entry found
      simp only [visit_some found, next] at failed
      cases failed

theorem Backend.put_plain {now time : Instant} {key value : String} {duration : Duration} {store : Backend}
    {fault : StoreFault} (due : expiry now duration = .ok time)
    (failed : (interface.put now key value duration store).1 = .error fault) : fault.IsOutage := by
  cases store with
  | memory store =>
    simp only [interface, call, Memory.put, due] at failed
    cases failed
  | table rows => exact Table.put_plain due failed

theorem Backend.plain : interface.Plain Backend.shelf where
  get now key state fault failed := by
    cases state with
    | memory store => exact Memory.plain.get now key store failed
    | table rows => exact Table.plain.get now key rows failed
  delete now key state fault failed := by
    cases state with
    | memory store => exact Memory.plain.delete now key store failed
    | table rows => exact Table.plain.delete now key rows failed
  increment {now key duration expires state fault} due countable failed := by
    cases state with
    | memory store => exact Memory.plain.increment due countable failed
    | table rows => exact Table.plain.increment due countable failed

namespace Interrupted

variable {σ : Type}

private theorem attempt_plain {α : Type} {act : σ → Except StoreFault α × σ} {state : Interrupted σ}
    {fault : StoreFault} (sound : (act state.store).1 = .error fault → fault.IsOutage)
    (failed : (attempt act state).1 = .error fault) :
    fault.IsOutage := by
  rcases attempt_cases act state with ⟨reason, _, unreached⟩ | ⟨_, made⟩
  · rw [unreached] at failed
    cases failed
    exact ⟨reason, rfl⟩
  · rw [made] at failed
    exact sound failed

theorem put_plain {inner : KeyValueStore σ} {now : Instant} {key value : String} {duration : Duration}
    {state : Interrupted σ} {fault : StoreFault}
    (sound : (inner.put now key value duration state.store).1 = .error fault → fault.IsOutage)
    (failed : ((interface inner).put now key value duration state).1 = .error fault) : fault.IsOutage :=
  attempt_plain sound failed

theorem plain {inner : KeyValueStore σ} {shelf : σ → Shelf} (plain : inner.Plain shelf) :
    (interface inner).Plain fun state => shelf state.store where
  get now key state _ failed := attempt_plain (plain.get now key state.store) failed
  delete now key state _ failed := attempt_plain (plain.delete now key state.store) failed
  increment due countable failed := attempt_plain (plain.increment due countable) failed

end Interrupted
end ReadOnce.Store
