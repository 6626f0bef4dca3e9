import ReadOnce.Proofs.Store.Agreement

/-!
Calls see one key. What a store answers depends on what is live under the key it is asked about and on nothing else
that it holds, and what is live under a key afterwards depends on what was live there before.
-/
namespace ReadOnce.Store

namespace Backend

/-- Whether the database of a table answers; nothing of the kind holds of the store within the process. -/
def reach? : Backend → Option Reach
  | memory _ => none
  | table rows => some rows.reach

/-- No one else makes the rows that the next increment would begin. -/
def Undisputed : Backend → Prop
  | memory _ => True
  | table rows => rows.conflicts < 2

end Backend

namespace Question

/-- The key that a question is about. -/
def key : Question → String
  | put key _ _ | get key | delete key | increment key _ => key

theorem key_ask {σ : Type} (store : KeyValueStore σ) (now : Instant) (state : σ) (question : Question) :
    (question.ask store now state).1.key = question.key := by
  cases question <;> rfl

/-- An answer, if the table can be reached at all. -/
def within {α : Type} (name : String) (answer : Except StoreFault α) : Reach → Except StoreFault α
  | .ready => answer
  | _ => .error (.unavailable ("sql " ++ name ++ " failed"))

/-- The count that an increment gives; a counter that is begun needs a time at which it expires. -/
def count (expires : Except StoreFault (Option Instant)) : Option Entry → Except StoreFault Int
  | none => expires.map fun _ => 1
  | some entry => (nextCount entry.value).map (·.1)

/-- The exchange that a question leads to, by what is live under its key. The store within the process reckons
when a counter expires only where it begins one. -/
def exchange (now : Instant) (entry : Option Entry) : Option Reach → Question → Exchange
  | none, put key value duration => .put key value duration ((expiry now duration).map fun _ => ())
  | none, get key => .get key (.ok (entry.map (·.value)))
  | none, delete key => .delete key (.ok entry.isSome)
  | none, increment key duration => .increment key duration (count (counterExpiry now duration) entry)
  | some reach, put key value duration =>
    .put key value duration (expiry now duration >>= fun _ => within "put" (.ok ()) reach)
  | some reach, get key => .get key (within "get" (.ok (entry.map (·.value))) reach)
  | some reach, delete key => .delete key (within "delete" (.ok entry.isSome) reach)
  | some reach, increment key duration =>
    .increment key duration do
      let expires ← counterExpiry now duration
      within "increment" (count (.ok expires) entry) reach

private theorem visit_fst (now : Instant) (key : String) (store : Memory) :
    (store.visit now key).1 = store.shelf.live? now key := by
  cases found : store.shelf.live? now key with
  | none =>
    obtain ⟨next, visited, _⟩ := Memory.visit_none found
    rw [visited]
  | some entry => rw [Memory.visit_some found]

private theorem ask_memory (now : Instant) (store : Memory) (question : Question) :
    (question.ask Memory.interface now store).1 = question.exchange now (store.shelf.live? now question.key) none := by
  cases question with
  | put key value duration =>
    simp only [ask, exchange, Memory.interface, Memory.put]
    cases expiry now duration <;> rfl
  | get key =>
    rw [← visit_fst]
    rfl
  | delete key =>
    rw [← visit_fst]
    simp only [ask, exchange, Memory.interface, Memory.delete, Question.key]
    rcases store.visit now key with ⟨_ | _, _⟩ <;> rfl
  | increment key duration =>
    rw [← visit_fst]
    simp only [ask, exchange, Memory.interface, Memory.increment, Question.key]
    rcases store.visit now key with ⟨_ | entry, _⟩
    · simp only [count]
      cases counterExpiry now duration <;> rfl
    · simp only [count]
      cases nextCount entry.value <;> rfl

private theorem within_fst {α : Type} (name : String) (table : Table)
    (transaction : Shelf → Except StoreFault α × Shelf) :
    (table.within name transaction).1 = within name (transaction table.rows).1 table.reach := by
  unfold Table.within within
  cases table.reach <;> rfl

private theorem ask_table (now : Instant) {table : Table} (calm : table.conflicts < 2) (question : Question) :
    (question.ask Table.interface now table).1 =
      question.exchange now (table.rows.live? now question.key) (some table.reach) := by
  cases question with
  | put key value duration =>
    simp only [ask, exchange, Table.interface, Table.put]
    cases expiry now duration with
    | error fault => rfl
    | ok time => exact congrArg (Exchange.put key value duration) (within_fst "put" table _)
  | get key => simp only [ask, exchange, Table.interface, Table.get, Question.key, within_fst, Shelf.live?]
  | delete key =>
    simp only [ask, exchange, Table.interface, Table.delete, Question.key, within_fst, Shelf.live?]
    cases table.rows.find? key with
    | none => rfl
    | some entry =>
      cases live : entry.isLive now <;> simp [Option.filter, live]
  | increment key duration =>
    simp only [ask, exchange, Table.interface, Table.increment, ge_iff_le, if_neg (Nat.not_le.mpr calm), Question.key]
    cases counterExpiry now duration with
    | error fault => rfl
    | ok expires =>
      simp only [within_fst, Table.incrementRow, ← Shelf.live?.eq_1]
      cases table.rows.live? now key with
      | none => rfl
      | some entry =>
        simp only [count]
        cases nextCount entry.value <;> rfl

theorem ask_fst (now : Instant) {state : Backend} (undisputed : state.Undisputed) (question : Question) :
    (question.ask Backend.interface now state).1 =
      question.exchange now (state.shelf.live? now question.key) state.reach? := by
  cases state with
  | memory store =>
    have same : (question.ask Backend.interface now (.memory store)).1 =
        (question.ask Memory.interface now store).1 := by
      cases question <;> rfl
    rw [same, ask_memory]
    rfl
  | table rows =>
    have same : (question.ask Backend.interface now (.table rows)).1 = (question.ask Table.interface now rows).1 := by
      cases question <;> rfl
    rw [same, ask_table now undisputed]
    rfl

private theorem within_snd {α : Type} (name : String) (table : Table)
    (transaction : Shelf → Except StoreFault α × Shelf) :
    (table.within name transaction).2.reach = table.reach ∧
      (table.within name transaction).2.conflicts = table.conflicts := by
  obtain ⟨rows, reach, conflicts⟩ := table
  cases reach <;> exact ⟨rfl, rfl⟩

/-- No question makes a store any other. -/
theorem ask_snd (now : Instant) {state : Backend} (undisputed : state.Undisputed) (question : Question) :
    (question.ask Backend.interface now state).2.reach? = state.reach? ∧
      (question.ask Backend.interface now state).2.Undisputed := by
  cases state with
  | memory store => cases question <;> exact ⟨rfl, trivial⟩
  | table rows =>
    have kept {α : Type} (name : String) (table : Table) (transaction : Shelf → Except StoreFault α × Shelf)
        (reach : table.reach = rows.reach) (calm : table.conflicts < 2) :
        (Backend.table (table.within name transaction).2).reach? = (Backend.table rows).reach? ∧
          (Backend.table (table.within name transaction).2).Undisputed := by
      obtain ⟨same, few⟩ := within_snd name table transaction
      exact ⟨congrArg some (same.trans reach), lt_of_eq_of_lt few calm⟩
    cases question with
    | put key value duration =>
      simp only [ask, Backend.interface, Backend.call_table, Table.put]
      cases expiry now duration with
      | error fault => exact ⟨rfl, undisputed⟩
      | ok time => exact kept "put" rows _ rfl undisputed
    | get key =>
      simp only [ask, Backend.interface, Backend.call_table, Table.get]
      exact kept "get" rows _ rfl undisputed
    | delete key =>
      simp only [ask, Backend.interface, Backend.call_table, Table.delete]
      exact kept "delete" rows _ rfl undisputed
    | increment key duration =>
      have calm : rows.conflicts < 2 := undisputed
      simp only [ask, Backend.interface, Backend.call_table, Table.increment, ge_iff_le, if_neg (Nat.not_le.mpr calm)]
      cases counterExpiry now duration with
      | error fault => exact ⟨rfl, undisputed⟩
      | ok expires => exact kept "increment" { rows with conflicts := 0 } _ rfl Nat.zero_lt_two

end Question

/-- Two stores of one kind, both in reach or both out of it, that hold the same under some of their keys. -/
structure Backend.Concur (now : Instant) (keys : String → Prop) (left right : Backend) : Prop where
  kind : left.reach? = right.reach?
  calm : left.Undisputed
  still : right.Undisputed
  live : ∀ key, keys key → left.shelf.live? now key = right.shelf.live? now key

namespace Backend.Concur

variable {now : Instant} {keys : String → Prop} {left right : Backend}

theorem refl (undisputed : left.Undisputed) : Concur now keys left left :=
  ⟨rfl, undisputed, undisputed, fun _ _ => rfl⟩

theorem ask (concur : Concur now keys left right) {question : Question} (known : keys question.key) :
    (question.ask interface now left).1 = (question.ask interface now right).1 ∧
      Concur now keys (question.ask interface now left).2 (question.ask interface now right).2 := by
  have same : (question.ask interface now left).1 = (question.ask interface now right).1 := by
    rw [question.ask_fst now concur.calm, question.ask_fst now concur.still, concur.kind,
      concur.live question.key known]
  refine ⟨same, ?_⟩
  obtain ⟨kind, calm⟩ := question.ask_snd now concur.calm
  obtain ⟨other, still⟩ := question.ask_snd now concur.still
  refine ⟨kind.trans (concur.kind.trans other.symm), calm, still, ?_⟩
  intro key inside
  have effect := Question.ask_effect lawful now left question
  rw [same] at effect
  exact effect.live?_congr (Question.ask_effect lawful now right question) (concur.live key inside)

theorem ask_elsewhere (concur : Concur now keys left right) {question : Question} (other : ¬ keys question.key) :
    Concur now keys (question.ask interface now left).2 right := by
  obtain ⟨kind, calm⟩ := question.ask_snd now concur.calm
  refine ⟨kind.trans concur.kind, calm, concur.still, ?_⟩
  intro key inside
  have apart : key ≠ (question.ask interface now left).1.key := by
    intro same
    rw [Question.key_ask] at same
    exact other (same ▸ inside)
  rw [Shelf.live?, (Question.ask_effect lawful now left question).others key apart]
  exact concur.live key inside

end Backend.Concur
end ReadOnce.Store
