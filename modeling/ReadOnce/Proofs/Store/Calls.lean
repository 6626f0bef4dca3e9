import ReadOnce.Store.Backend

/-!
What a call to a store may do to the entries it holds, and that the stores do nothing else. A call is kept
together with its answer as an exchange; its effect is told on shelves, expired entries included.
-/
namespace ReadOnce.Store

namespace Key

theorem message_inj {id other : String} : message id = message other ↔ id = other := by
  simp [message]

theorem attempts_inj {id other : String} : attempts id = attempts other ↔ id = other := by
  simp [attempts]

theorem message_ne_attempts (id other : String) : message id ≠ attempts other := by
  intro same
  have front := congrArg (fun text => text.toList.head?) same
  simp [message, attempts] at front

end Key

/-- What a store was asked, with its answer. -/
inductive Exchange where
  | put (key value : String) (duration : Duration) (answer : Except StoreFault Unit)
  | get (key : String) (answer : Except StoreFault (Option String))
  | delete (key : String) (answer : Except StoreFault Bool)
  | increment (key : String) (duration : Option Duration) (answer : Except StoreFault Int)

namespace Exchange

def key : Exchange → String
  | put key _ _ _ | get key _ | delete key _ | increment key _ _ => key

/-- The fault that was answered, if there was one. -/
def fault? : Exchange → Option StoreFault
  | put _ _ _ (.error fault) | get _ (.error fault) | delete _ (.error fault) | increment _ _ (.error fault) =>
    some fault
  | _ => none

/-- Whether a value was stored under a key. -/
def stores (key : String) : Exchange → Bool
  | put other _ _ (.ok _) => other = key
  | _ => false

theorem stores_eq_false {key : String} {exchange : Exchange} (failed : exchange.fault?.isSome) :
    exchange.stores key = false := by
  unfold stores
  split
  · simp [fault?] at failed
  · rfl

end Exchange

/-- The entry under a key, unless it has expired. -/
def Shelf.live? (now : Instant) (key : String) (shelf : Shelf) : Option Entry :=
  (shelf.find? key).filter (·.isLive now)

/-- Only what is found under one key may differ. -/
def SameBut (key : String) (before after : Shelf) : Prop :=
  ∀ other, other ≠ key → after.find? other = before.find? other

/-- Nothing has changed, but an expired entry under one key may be gone. -/
structure Tidied (now : Instant) (key : String) (before after : Shelf) : Prop where
  others : SameBut key before after
  here : after.find? key = before.find? key ∨ (before.live? now key = none ∧ after.find? key = none)

/-- What an exchange does to the entries. -/
inductive Effect (now : Instant) (before after : Shelf) : Exchange → Prop where
  | stored {key value : String} {duration : Duration} {time : Instant} (due : expiry now duration = .ok time)
      (here : after.find? key = some ⟨value, some time⟩) (others : SameBut key before after) :
      Effect now before after (.put key value duration (.ok ()))
  | read {key : String} {answer : Option String} (found : answer = (before.live? now key).map (·.value))
      (tidied : Tidied now key before after) : Effect now before after (.get key (.ok answer))
  | removed {key : String} {answer : Bool} (found : answer = (before.live? now key).isSome)
      (here : after.find? key = none) (others : SameBut key before after) :
      Effect now before after (.delete key (.ok answer))
  /-- The counter was absent or had expired. -/
  | begun {key : String} {duration : Option Duration} {expires : Option Instant}
      (absent : before.live? now key = none) (due : counterExpiry now duration = .ok expires)
      (here : after.find? key = some ⟨"1", expires⟩) (others : SameBut key before after) :
      Effect now before after (.increment key duration (.ok 1))
  | grown {key value : String} {duration : Option Duration} {entry : Entry} {count : Int}
      (found : before.live? now key = some entry) (next : nextCount entry.value = .ok (count, value))
      (here : after.find? key = some { entry with value }) (others : SameBut key before after) :
      Effect now before after (.increment key duration (.ok count))
  | refused {exchange : Exchange} (failed : exchange.fault?.isSome)
      (tidied : Tidied now exchange.key before after) : Effect now before after exchange

/-- A store whose calls have the effects of their exchanges, seen through the shelf it stands for. -/
structure KeyValueStore.Lawful {σ : Type} (store : KeyValueStore σ) (shelf : σ → Shelf) : Prop where
  put (now : Instant) (key value : String) (duration : Duration) (state : σ) :
    Effect now (shelf state) (shelf (store.put now key value duration state).2)
      (.put key value duration (store.put now key value duration state).1)
  get (now : Instant) (key : String) (state : σ) :
    Effect now (shelf state) (shelf (store.get now key state).2) (.get key (store.get now key state).1)
  delete (now : Instant) (key : String) (state : σ) :
    Effect now (shelf state) (shelf (store.delete now key state).2) (.delete key (store.delete now key state).1)
  increment (now : Instant) (key : String) (duration : Option Duration) (state : σ) :
    Effect now (shelf state) (shelf (store.increment now key duration state).2)
      (.increment key duration (store.increment now key duration state).1)

theorem SameBut.insert (key : String) (entry : Entry) (shelf : Shelf) :
    SameBut key shelf (shelf.insert key entry) := by
  intro other apart
  rw [Shelf.find?_insert, if_neg apart]

theorem SameBut.erase (key : String) (shelf : Shelf) : SameBut key shelf (shelf.erase key) := by
  intro other apart
  rw [Shelf.find?_erase, if_neg apart]

/-- No exchange reaches beyond its key. -/
theorem Effect.others {now : Instant} {before after : Shelf} {exchange : Exchange}
    (effect : Effect now before after exchange) : SameBut exchange.key before after := by
  cases effect with
  | stored _ _ others | removed _ _ others | begun _ _ _ others | grown _ _ _ others => exact others
  | read _ tidied | refused _ tidied => exact tidied.others

section Answers

variable {now : Instant} {before after : Shelf} {key : String}

theorem Effect.of_put {value : String} {duration : Duration} {done : Unit}
    (effect : Effect now before after (.put key value duration (.ok done))) :
    ∃ time, expiry now duration = .ok time ∧ after.find? key = some ⟨value, some time⟩ ∧
      SameBut key before after := by
  cases effect with
  | stored due here others => exact ⟨_, due, here, others⟩
  | refused failed tidied => cases failed

theorem Effect.of_get {answer : Option String} (effect : Effect now before after (.get key (.ok answer))) :
    answer = (before.live? now key).map (·.value) ∧ Tidied now key before after := by
  cases effect with
  | read found tidied => exact ⟨found, tidied⟩
  | refused failed tidied => cases failed

theorem Effect.of_delete {answer : Bool} (effect : Effect now before after (.delete key (.ok answer))) :
    answer = (before.live? now key).isSome ∧ after.find? key = none ∧ SameBut key before after := by
  cases effect with
  | removed found here others => exact ⟨found, here, others⟩
  | refused failed tidied => cases failed

/-- What an increment that was answered did: it began a counter, or it found one and counted on. -/
theorem Effect.of_increment {duration : Option Duration} {answer : Int}
    (effect : Effect now before after (.increment key duration (.ok answer))) :
    (before.live? now key = none ∧ answer = 1 ∧ ∃ expires, counterExpiry now duration = .ok expires ∧
      after.find? key = some ⟨"1", expires⟩) ∨
    ∃ entry value, before.live? now key = some entry ∧ nextCount entry.value = .ok (answer, value) ∧
      after.find? key = some { entry with value } := by
  cases effect with
  | begun absent due here others => exact .inl ⟨absent, rfl, _, due, here⟩
  | grown found next here others => exact .inr ⟨_, _, found, next, here⟩
  | refused failed tidied => cases failed

theorem Effect.of_fault {exchange : Exchange} (effect : Effect now before after exchange)
    (failed : exchange.fault?.isSome) : Tidied now exchange.key before after := by
  cases effect with
  | refused failed tidied => exact tidied
  | _ => cases failed

end Answers

/-- What is found where an entry was removed was there before. -/
theorem SameBut.found {key other : String} {before after : Shelf} {entry : Entry} (others : SameBut key before after)
    (gone : after.find? key = none) (found : after.find? other = some entry) : before.find? other = some entry := by
  have apart : other ≠ key := by
    rintro rfl
    rw [gone] at found
    cases found
  exact others other apart ▸ found

theorem Tidied.found {now : Instant} {key other : String} {before after : Shelf} {entry : Entry}
    (tidied : Tidied now key before after) (found : after.find? other = some entry) :
    before.find? other = some entry := by
  by_cases same : other = key
  · subst same
    rcases tidied.here with kept | ⟨_, gone⟩
    · exact kept ▸ found
    · rw [gone] at found; cases found
  · exact tidied.others other same ▸ found

/-- An exchange that only reads or removes changes nothing that is live. -/
theorem Tidied.live?_eq {now : Instant} {key : String} {before after : Shelf} (tidied : Tidied now key before after)
    (other : String) : after.live? now other = before.live? now other := by
  by_cases same : other = key
  · subst same
    rcases tidied.here with kept | ⟨expired, gone⟩
    · rw [Shelf.live?, kept, Shelf.live?]
    · rw [expired, Shelf.live?, gone]
      rfl
  · rw [Shelf.live?, tidied.others other same, Shelf.live?]

theorem Tidied.refl (now : Instant) (key : String) (shelf : Shelf) : Tidied now key shelf shelf :=
  ⟨fun _ _ => rfl, .inl rfl⟩

@[simp] theorem Shelf.find?_insert_self (shelf : Shelf) (key : String) (entry : Entry) :
    (shelf.insert key entry).find? key = some entry := by
  rw [find?_insert, if_pos rfl]

@[simp] theorem Shelf.find?_erase_self (shelf : Shelf) (key : String) : (shelf.erase key).find? key = none := by
  rw [find?_erase, if_pos rfl]

theorem Shelf.live?_eq_some {now : Instant} {key : String} {shelf : Shelf} {entry : Entry} :
    shelf.live? now key = some entry ↔ shelf.find? key = some entry ∧ entry.isLive now = true := by
  simp [live?, Option.filter_eq_some_iff]

theorem Shelf.live?_eq_none {now : Instant} {key : String} {shelf : Shelf} :
    shelf.live? now key = none ↔ ∀ entry, shelf.find? key = some entry → entry.isLive now = false := by
  simp [live?, Option.filter_eq_none_iff]

/-- What is live at a time was live at every earlier one. -/
theorem Entry.isLive_earlier {entry : Entry} {earlier later : Instant} (order : earlier ≤ later)
    (live : entry.isLive later = true) : entry.isLive earlier = true := by
  cases due : entry.expires with
  | none => simp [isLive, due]
  | some time =>
    simp only [isLive, due, decide_eq_true_eq] at live ⊢
    exact Int.lt_of_le_of_lt order live

theorem expiry_eq {now time : Instant} {duration : Duration} (due : expiry now duration = .ok time) :
    time = now + duration := by
  simp only [expiry, Instant.after?] at due
  split at due
  · next found =>
    cases due
    split at found
    · exact (Option.some.inj found).symm
    · cases found
  · cases due

theorem expiry_of_after? {now : Instant} {duration : Duration} (reached : (now.after? duration).isSome) :
    expiry now duration = .ok (now + duration) := by
  simp only [Instant.after?] at reached
  split at reached
  · next inside => simp only [expiry, Instant.after?, if_pos inside]
  · cases reached

theorem counterExpiry_of_after? {now : Instant} {duration : Duration} (reached : (now.after? duration).isSome) :
    counterExpiry now (some duration) = .ok (some (now + duration)) := by
  rw [counterExpiry, expiry_of_after? reached]
  rfl

theorem counterExpiry_eq {now : Instant} {duration : Duration} {expires : Option Instant}
    (due : counterExpiry now (some duration) = .ok expires) : expires = some (now + duration) := by
  simp only [counterExpiry] at due
  cases reached : expiry now duration with
  | error fault => rw [reached] at due; cases due
  | ok time =>
    rw [reached] at due
    cases due
    rw [expiry_eq reached]

namespace Memory

theorem visit_some {now : Instant} {key : String} {store : Memory} {entry : Entry}
    (found : store.shelf.live? now key = some entry) : store.visit now key = (some entry, store) := by
  obtain ⟨here, live⟩ := Shelf.live?_eq_some.mp found
  simp only [visit, here, live, if_true]

theorem visit_none {now : Instant} {key : String} {store : Memory}
    (absent : store.shelf.live? now key = none) :
    ∃ next, store.visit now key = (none, next) ∧ next.shelf.find? key = none ∧
      SameBut key store.shelf next.shelf := by
  cases here : store.shelf.find? key with
  | none => exact ⟨store, by simp only [visit, here], here, fun _ _ => rfl⟩
  | some entry =>
    have expired := Shelf.live?_eq_none.mp absent entry here
    refine ⟨⟨store.shelf.erase key⟩, ?_, store.shelf.find?_erase_self key, SameBut.erase key _⟩
    simp only [visit, here, expired, Bool.false_eq_true, if_false]

theorem put_effect (now : Instant) (key value : String) (duration : Duration) (store : Memory) :
    Effect now store.shelf (store.put now key value duration).2.shelf
      (.put key value duration (store.put now key value duration).1) := by
  simp only [put]
  cases due : expiry now duration with
  | error fault => exact .refused rfl (.refl now key _)
  | ok time => exact .stored due (by simp) (SameBut.insert key _ _)

theorem get_effect (now : Instant) (key : String) (store : Memory) :
    Effect now store.shelf (store.get now key).2.shelf (.get key (store.get now key).1) := by
  simp only [get]
  cases found : store.shelf.live? now key with
  | none =>
    obtain ⟨next, visited, gone, others⟩ := visit_none found
    simp only [visited]
    exact .read (by rw [found]) ⟨others, .inr ⟨found, gone⟩⟩
  | some entry =>
    simp only [visit_some found]
    exact .read (by rw [found]) (.refl now key _)

theorem delete_effect (now : Instant) (key : String) (store : Memory) :
    Effect now store.shelf (store.delete now key).2.shelf (.delete key (store.delete now key).1) := by
  simp only [delete]
  cases found : store.shelf.live? now key with
  | none =>
    obtain ⟨next, visited, gone, others⟩ := visit_none found
    simp only [visited]
    exact .removed (by rw [found]; rfl) gone others
  | some entry =>
    simp only [visit_some found]
    exact .removed (by rw [found]; rfl) (store.shelf.find?_erase_self key) (SameBut.erase key _)

theorem increment_effect (now : Instant) (key : String) (duration : Option Duration) (store : Memory) :
    Effect now store.shelf (store.increment now key duration).2.shelf
      (.increment key duration (store.increment now key duration).1) := by
  simp only [increment]
  cases found : store.shelf.live? now key with
  | none =>
    obtain ⟨next, visited, gone, others⟩ := visit_none found
    simp only [visited]
    cases due : counterExpiry now duration with
    | error fault => exact .refused rfl ⟨others, .inr ⟨found, gone⟩⟩
    | ok expires =>
      refine .begun found due (by simp) ?_
      intro other apart
      rw [SameBut.insert key _ _ other apart, others other apart]
  | some entry =>
    simp only [visit_some found]
    cases counted : nextCount entry.value with
    | error fault => exact .refused rfl (.refl now key _)
    | ok result => exact .grown found counted (by simp) (SameBut.insert key _ _)

theorem lawful : interface.Lawful Memory.shelf := ⟨put_effect, get_effect, delete_effect, increment_effect⟩

end Memory

namespace Table

/-- A transaction has its effect, or the table is out of reach and nothing happens. -/
theorem within_effect {α : Type} {now : Instant} {transaction : Shelf → Except StoreFault α × Shelf}
    (make : Except StoreFault α → Exchange) (table : Table) (name : String)
    (faulty : ∀ fault, (make (.error fault)).fault?.isSome)
    (ran : Effect now table.rows (transaction table.rows).2 (make (transaction table.rows).1)) :
    Effect now table.rows (table.within name transaction).2.rows (make (table.within name transaction).1) := by
  unfold within
  cases table.reach with
  | ready => exact ran
  | tableMissing | unreachable => exact .refused (faulty _) (.refl now _ _)

theorem put_effect (now : Instant) (key value : String) (duration : Duration) (table : Table) :
    Effect now table.rows (table.put now key value duration).2.rows
      (.put key value duration (table.put now key value duration).1) := by
  simp only [put]
  cases due : expiry now duration with
  | error fault => exact .refused rfl (.refl now key _)
  | ok time =>
    apply within_effect (.put key value duration) table "put" fun _ => rfl
    exact .stored due (by simp) (SameBut.insert key _ _)

theorem get_effect (now : Instant) (key : String) (table : Table) :
    Effect now table.rows (table.get now key).2.rows (.get key (table.get now key).1) := by
  apply within_effect (.get key) table "get" fun _ => rfl
  exact .read rfl (.refl now key _)

theorem delete_effect (now : Instant) (key : String) (table : Table) :
    Effect now table.rows (table.delete now key).2.rows (.delete key (table.delete now key).1) := by
  apply within_effect (.delete key) table "delete" fun _ => rfl
  cases found : table.rows.find? key with
  | none => exact .removed (by simp [Shelf.live?, found]) found fun _ _ => rfl
  | some entry =>
    have live : entry.isLive now = (table.rows.live? now key).isSome := by
      cases here : entry.isLive now <;> simp [Shelf.live?, found, Option.filter, here]
    exact .removed live (table.rows.find?_erase_self key) (SameBut.erase key _)

theorem incrementRow_effect {now : Instant} {duration : Option Duration} {expires : Option Instant}
    (due : counterExpiry now duration = .ok expires) (key : String) (rows : Shelf) :
    Effect now rows (incrementRow now key expires rows).2
      (.increment key duration (incrementRow now key expires rows).1) := by
  simp only [incrementRow, ← Shelf.live?.eq_1]
  cases found : rows.live? now key with
  | none => exact .begun found due (by simp) (SameBut.insert key _ _)
  | some entry =>
    dsimp only
    cases counted : nextCount entry.value with
    | error fault => exact .refused rfl (.refl now key _)
    | ok result => exact .grown found counted (rows.find?_insert_self key _) (SameBut.insert key _ _)

theorem increment_effect (now : Instant) (key : String) (duration : Option Duration) (table : Table) :
    Effect now table.rows (table.increment now key duration).2.rows
      (.increment key duration (table.increment now key duration).1) := by
  simp only [increment]
  cases due : counterExpiry now duration with
  | error fault => exact .refused rfl (.refl now key _)
  | ok expires =>
    dsimp only
    split
    · exact .refused rfl (.refl now key _)
    · apply within_effect (.increment key duration) { table with conflicts := 0 } "increment" fun _ => rfl
      exact incrementRow_effect due key table.rows

theorem lawful : interface.Lawful Table.rows := ⟨put_effect, get_effect, delete_effect, increment_effect⟩

end Table

namespace Backend

/-- The entries of a store, those that have expired but are still held included. -/
def shelf : Backend → Shelf
  | memory store => store.shelf
  | table rows => rows.rows

theorem call_memory {α : Type} (onMemory : Memory → Except StoreFault α × Memory)
    (onTable : Table → Except StoreFault α × Table) (store : Memory) :
    call onMemory onTable (memory store) = ((onMemory store).1, memory (onMemory store).2) := rfl

theorem call_table {α : Type} (onMemory : Memory → Except StoreFault α × Memory)
    (onTable : Table → Except StoreFault α × Table) (rows : Table) :
    call onMemory onTable (table rows) = ((onTable rows).1, table (onTable rows).2) := rfl

theorem call_effect {α : Type} {now : Instant} {onMemory : Memory → Except StoreFault α × Memory}
    {onTable : Table → Except StoreFault α × Table} (make : Except StoreFault α → Exchange)
    (inMemory : ∀ store : Memory, Effect now store.shelf (onMemory store).2.shelf (make (onMemory store).1))
    (inTable : ∀ rows : Table, Effect now rows.rows (onTable rows).2.rows (make (onTable rows).1)) (state : Backend) :
    Effect now (shelf state) (shelf (call onMemory onTable state).2) (make (call onMemory onTable state).1) := by
  cases state with
  | memory store => exact inMemory store
  | table rows => exact inTable rows

theorem lawful : interface.Lawful shelf where
  put now key value duration :=
    call_effect (.put key value duration) (Memory.lawful.put now key value duration)
      (Table.lawful.put now key value duration)
  get now key := call_effect (.get key) (Memory.lawful.get now key) (Table.lawful.get now key)
  delete now key := call_effect (.delete key) (Memory.lawful.delete now key) (Table.lawful.delete now key)
  increment now key duration :=
    call_effect (.increment key duration) (Memory.lawful.increment now key duration)
      (Table.lawful.increment now key duration)

end Backend
end ReadOnce.Store
