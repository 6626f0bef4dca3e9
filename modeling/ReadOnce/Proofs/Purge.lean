import ReadOnce.Proofs.Dialogue

/-!
Purges. The rows that have expired are removed from a table in one go, and neither who asks the table nor who is served
by the service that keeps its messages there can tell whether that was done.
-/
namespace ReadOnce

namespace Store

/-- Whether there is a time from which an entry counts as gone, and it has come. -/
def Entry.isDue (now : Instant) (entry : Entry) : Bool := entry.expires.any (· ≤ now)

theorem Entry.isLive_eq_not_isDue (now : Instant) (entry : Entry) : entry.isLive now = !entry.isDue now := by
  rw [isLive, isDue]
  cases entry.expires with
  | none => rfl
  | some time =>
    have negated : (now < time) = ¬ time ≤ now := propext Int.not_le.symm
    simp only [Option.any_some, negated, decide_not]

theorem Shelf.entries_live (now : Instant) (shelf : Shelf) :
    (shelf.live now).entries = shelf.entries.filter fun row => !row.2.isDue now := by
  simp only [live, filter, Entry.isLive_eq_not_isDue]

namespace Table

variable {now : Instant} {table left right : Table}

/-- A purge leaves the rows that are live, and tells how many it took away. -/
theorem purge_ready (ready : table.reach = .ready) :
    table.purge now =
      (.ok (table.rows.entries.countP fun row => row.2.isDue now), { table with rows := table.rows.live now }) := by
  have parts := List.length_eq_countP_add_countP (fun row : String × Entry => row.2.isDue now)
    (l := table.rows.entries)
  have kept : (table.rows.live now).entries.length =
      table.rows.entries.countP fun row => decide (¬ row.2.isDue now = true) := by
    rw [Shelf.entries_live, ← List.countP_eq_length_filter]
    simp
  have taken : table.rows.entries.length - (table.rows.live now).entries.length =
      table.rows.entries.countP fun row => row.2.isDue now := by omega
  simp only [purge, within, ready, taken]

theorem purge_of_away (away : table.reach ≠ .ready) :
    table.purge now = (.error (.unavailable "sql purge failed"), table) := by
  cases reach : table.reach with
  | ready => exact absurd reach away
  | tableMissing | unreachable =>
    simp only [purge, within, reach]
    rfl

end Table

/-- States of a store that answer any question alike, and are related again after it. -/
def KeyValueStore.Blind {σ : Type} (store : KeyValueStore σ) (now : Instant) (related : σ → σ → Prop) : Prop :=
  ∀ (question : Question) {left right : σ}, related left right →
    (question.ask store now left).1 = (question.ask store now right).1 ∧
      related (question.ask store now left).2 (question.ask store now right).2

theorem KeyValueStore.Blind.put {σ : Type} {store : KeyValueStore σ} {now : Instant} {related : σ → σ → Prop}
    (blind : store.Blind now related) (key value : String) (duration : Duration) {left right : σ}
    (alike : related left right) :
    ∃ answer first second, store.put now key value duration left = (answer, first) ∧
      store.put now key value duration right = (answer, second) ∧ related first second := by
  obtain ⟨same, later⟩ := blind (.put key value duration) alike
  exact ⟨_, _, (store.put now key value duration right).2, rfl, Prod.ext (Exchange.put.inj same).2.2.2.symm rfl, later⟩

namespace Table

/-- Two tables of which the same is seen from a time on: only rows that have expired may be in one and not in the
other. -/
structure Alike (now : Instant) (left right : Table) : Prop where
  reach : left.reach = right.reach
  conflicts : left.conflicts = right.conflicts
  rows : Store.Alike now left.rows right.rows

namespace Alike

variable {now : Instant} {left right : Table}

theorem refl (now : Instant) (table : Table) : Alike now table table := ⟨rfl, rfl, fun _ => rfl⟩

theorem later {time : Instant} (alike : Alike now left right) (order : now ≤ time) : Alike time left right :=
  ⟨alike.reach, alike.conflicts, alike.rows.later order⟩

theorem purged (alike : Alike now left right) : Alike now (left.purge now).2 right := by
  by_cases ready : left.reach = .ready
  · rw [purge_ready ready]
    refine ⟨alike.reach, alike.conflicts, fun key => ?_⟩
    have twice : (left.rows.live now).live? now key = left.rows.live? now key := by
      rw [Shelf.live?, Shelf.find?_live, Shelf.live?, Option.filter_filter]
      simp only [Bool.and_self]
    exact twice.trans (alike.rows key)
  · rw [purge_of_away ready]
    exact alike

private theorem within {α : Type} (alike : Alike now left right) (name : String)
    (transaction : Shelf → Except StoreFault α × Shelf)
    (same : (transaction left.rows).1 = (transaction right.rows).1) :
    (left.within name transaction).1 = (right.within name transaction).1 ∧
      (left.within name transaction).2.reach = (right.within name transaction).2.reach ∧
      (left.within name transaction).2.conflicts = (right.within name transaction).2.conflicts := by
  obtain ⟨rows, reach, conflicts⟩ := left
  obtain ⟨others, _, _⟩ := right
  obtain ⟨rfl, rfl, _⟩ := alike
  cases reach with
  | ready => exact ⟨same, rfl, rfl⟩
  | tableMissing | unreachable => exact ⟨rfl, rfl, rfl⟩

private theorem incrementRow_fst (alike : Alike now left right) (key : String) (expires : Option Instant) :
    (incrementRow now key expires left.rows).1 = (incrementRow now key expires right.rows).1 := by
  simp only [incrementRow, ← Shelf.live?.eq_1, alike.rows key]
  cases right.rows.live? now key with
  | none => rfl
  | some entry =>
    dsimp only
    cases nextCount entry.value <;> rfl

private theorem delete_fst (now : Instant) (key : String) (rows : Shelf) :
    (match rows.find? key with
      | none => ((.ok false, rows) : Except StoreFault Bool × Shelf)
      | some entry => (.ok (entry.isLive now), rows.erase key)).1 = .ok (rows.live? now key).isSome := by
  cases found : rows.find? key with
  | none => simp [Shelf.live?, found]
  | some entry => cases live : entry.isLive now <;> simp [Shelf.live?, found, Option.filter, live]

private theorem delete (alike : Alike now left right) (key : String) :
    (left.delete now key).1 = (right.delete now key).1 ∧
      (left.delete now key).2.reach = (right.delete now key).2.reach ∧
      (left.delete now key).2.conflicts = (right.delete now key).2.conflicts := by
  apply alike.within "delete"
  exact (delete_fst now key left.rows).trans
    ((congrArg (fun entry => Except.ok entry.isSome) (alike.rows key)).trans (delete_fst now key right.rows).symm)

private theorem increment (alike : Alike now left right) (key : String) (duration : Option Duration) :
    (left.increment now key duration).1 = (right.increment now key duration).1 ∧
      (left.increment now key duration).2.reach = (right.increment now key duration).2.reach ∧
      (left.increment now key duration).2.conflicts = (right.increment now key duration).2.conflicts := by
  simp only [Table.increment, alike.conflicts]
  cases counterExpiry now duration with
  | error fault => exact ⟨rfl, alike.reach, alike.conflicts⟩
  | ok expires =>
    dsimp only
    split
    · exact ⟨rfl, alike.reach, rfl⟩
    · have calm : Alike now { left with conflicts := 0 } { right with conflicts := 0 } :=
        ⟨alike.reach, rfl, alike.rows⟩
      exact calm.within "increment" _ (alike.incrementRow_fst key expires)

/-- Tables that show the same answer alike, and go on showing the same. -/
theorem blind (now : Instant) : interface.Blind now (Alike now) := by
  intro question left right alike
  have same : (question.ask interface now left).1 = (question.ask interface now right).1 ∧
      (question.ask interface now left).2.reach = (question.ask interface now right).2.reach ∧
      (question.ask interface now left).2.conflicts = (question.ask interface now right).2.conflicts := by
    cases question with
    | put key value duration =>
      simp only [Question.ask, interface, put]
      cases expiry now duration with
      | error fault => exact ⟨rfl, alike.reach, alike.conflicts⟩
      | ok time => exact (alike.within "put" _ rfl).imp_left (congrArg (Exchange.put key value duration))
    | get key =>
      simp only [Question.ask, interface, get]
      refine (alike.within "get" _ ?_).imp_left (congrArg (Exchange.get key))
      exact congrArg (fun entry => Except.ok (entry.map Entry.value)) (alike.rows key)
    | delete key => exact (alike.delete key).imp_left (congrArg (Exchange.delete key))
    | increment key duration =>
      exact (alike.increment key duration).imp_left (congrArg (Exchange.increment key duration))
  refine ⟨same.1, same.2.1, same.2.2, ?_⟩
  have effect := Question.ask_effect lawful now left question
  rw [same.1] at effect
  exact effect.alike (Question.ask_effect lawful now right question) alike.rows

end Alike
end Table
end Store

namespace Message

open Store

section Blind

variable {ρ σ : Type} {store : KeyValueStore σ} {now : Instant} {related : σ → σ → Prop} {left right : σ}
  {service : Service} {source : RandomSource ρ}

/-- What a creation stores is stored in related states alike. -/
theorem Creation.step_blind (blind : store.Blind now related) (alike : related left right) (stage : Creation) :
    let one := stage.step service store now left
    let other := stage.step service store now right
    one.result = other.result ∧ one.log = other.log ∧ related one.state other.state := by
  cases stage with
  | ended result => exact ⟨rfl, rfl, alike⟩
  | storing id envelope key =>
    obtain ⟨answer, first, second, here, there, later⟩ := blind.put (Key.message id) envelope service.retention alike
    simp only [step, here, there]
    cases answer with
    | error fault => exact ⟨rfl, rfl, later⟩
    | ok => exact ⟨rfl, rfl, later⟩

theorem Retrieval.step_blind {id : String} {key : Bytes} (blind : store.Blind now related) (alike : related left right)
    (stage : Retrieval) :
    let one := step service store id key now stage left
    let other := step service store id key now stage right
    one.result = other.result ∧ one.log = other.log ∧ related one.state other.state := by
  simp only [step_eq]
  cases stage.question? service id with
  | none => exact ⟨rfl, rfl, alike⟩
  | some question =>
    obtain ⟨same, later⟩ := blind question alike
    dsimp only
    rw [same]
    exact ⟨rfl, rfl, later⟩

theorem Retrieval.steps_blind {id : String} {key : Bytes} (blind : store.Blind now related) (count : Nat)
    (stage : Retrieval) (alike : related left right) :
    let one := steps service store id key now count stage left
    let other := steps service store id key now count stage right
    one.result = other.result ∧ one.log = other.log ∧ related one.state other.state := by
  induction count generalizing stage left right with
  | zero => exact ⟨rfl, rfl, alike⟩
  | succ count ih =>
    obtain ⟨same, noted, later⟩ := @step_blind σ store now related left right service id key blind alike stage
    obtain ⟨end_, rest, finish⟩ := ih (step service store id key now stage left).result later
    simp only [steps]
    rw [← same, noted, ← rest]
    exact ⟨end_, rfl, finish⟩

theorem Service.create_blind (blind : store.Blind now related) (alike : related left right) (text : String)
    (dice : ρ) :
    let one := service.create source store now text (dice, left)
    let other := service.create source store now text (dice, right)
    one.result = other.result ∧ one.log = other.log ∧ one.state.1 = other.state.1 ∧
      related one.state.2 other.state.2 := by
  obtain ⟨same, noted, later⟩ := @Creation.step_blind σ store now related left right service blind alike
    (Creation.start service source text dice).result
  exact ⟨congrArg Creation.result same, congrArg ((Creation.start service source text dice).log ++ ·) noted,
    rfl, later⟩

theorem Service.retrieve_blind (blind : store.Blind now related) (alike : related left right) (id key : String) :
    let one := service.retrieve store now id key left
    let other := service.retrieve store now id key right
    one.result = other.result ∧ one.log = other.log ∧ related one.state other.state := by
  unfold retrieve
  cases keyOf id key with
  | error fault => exact ⟨rfl, rfl, alike⟩
  | ok bytes =>
    obtain ⟨same, noted, later⟩ := @Retrieval.steps_blind σ store now related left right service id bytes blind
      Retrieval.counting.remaining .counting alike
    exact ⟨congrArg Retrieval.result same, noted, later⟩

end Blind

/-- What may be asked of a table, or of the service that keeps its messages there. -/
inductive Task where
  | ask (question : Question)
  | create (text : String)
  | retrieve (id key : String)

/-- What a task comes to, with what is recorded of it. -/
inductive Report where
  | asked (exchange : Exchange)
  | created (result : Except Fault (Outcome (Identifier String))) (log : Log)
  | retrieved (result : Except Fault (Outcome String)) (log : Log)

/-- What is done with a table at a time: a task, or a purge. -/
structure Round where
  now : Instant
  task : Option Task

def Round.isTask (round : Round) : Bool := round.task.isSome

namespace Service

variable {ρ : Type}

/-- Does a task on a table, whose service draws from a random source. -/
def fulfil (service : Service) (source : RandomSource ρ) (now : Instant) (world : ρ × Table) :
    Task → Report × (ρ × Table)
  | .ask question =>
    let (exchange, table) := question.ask Table.interface now world.2
    (.asked exchange, (world.1, table))
  | .create text =>
    let run := service.create source Table.interface now text world
    (.created run.result run.log, run.state)
  | .retrieve id key =>
    let run := service.retrieve Table.interface now id key world.2
    (.retrieved run.result run.log, (world.1, run.state))

/-- Does one thing after another, and gives what each task comes to with all that is live after it. -/
def fulfilAll (service : Service) (source : RandomSource ρ) :
    List Round → ρ × Table → List (Report × List (String × Entry)) × (ρ × Table)
  | [], world => ([], world)
  | ⟨now, none⟩ :: rest, world => service.fulfilAll source rest (world.1, (world.2.purge now).2)
  | ⟨now, some task⟩ :: rest, world =>
    let (report, next) := service.fulfil source now world task
    let (reports, finish) := service.fulfilAll source rest next
    ((report, (next.2.rows.live now).sorted) :: reports, finish)

variable (service : Service) (source : RandomSource ρ) {now : Instant} {left right : Table}

/-- On tables that show the same, a task comes to the same and leaves tables that show the same. -/
theorem fulfil_alike (dice : ρ) (alike : left.Alike now right) (task : Task) :
    let one := service.fulfil source now (dice, left) task
    let other := service.fulfil source now (dice, right) task
    one.1 = other.1 ∧ one.2.1 = other.2.1 ∧ one.2.2.Alike now other.2.2 := by
  have blind := Table.Alike.blind now
  cases task with
  | ask question =>
    obtain ⟨same, later⟩ := blind question alike
    exact ⟨congrArg Report.asked same, rfl, later⟩
  | create text =>
    obtain ⟨same, noted, drawn, later⟩ := @create_blind ρ _ _ now _ left right service source blind alike text dice
    refine ⟨?_, drawn, later⟩
    simp only [fulfil, same, noted]
  | retrieve id key =>
    obtain ⟨same, noted, later⟩ := @retrieve_blind _ _ now _ left right service blind alike id key
    refine ⟨?_, rfl, later⟩
    simp only [fulfil, same, noted]

/-- Purges on one side only are not seen on tables that show the same. -/
theorem fulfilAll_alike (rounds : List Round) (dice : ρ) (alike : left.Alike now right)
    (ordered : (now :: rounds.map Round.now).Pairwise (· ≤ ·)) :
    let one := service.fulfilAll source rounds (dice, left)
    let other := service.fulfilAll source (rounds.filter Round.isTask) (dice, right)
    one.1 = other.1 ∧ one.2.1 = other.2.1 ∧
      ∀ time, (∀ instant ∈ now :: rounds.map Round.now, instant ≤ time) → one.2.2.Alike time other.2.2 := by
  induction rounds generalizing now left right dice with
  | nil => exact ⟨rfl, rfl, fun time last => alike.later (last now List.mem_cons_self)⟩
  | cons round rest ih =>
    obtain ⟨least, tail⟩ := List.pairwise_cons.mp ordered
    obtain ⟨instant, task⟩ := round
    have current := alike.later (least instant List.mem_cons_self)
    cases task with
    | none =>
      -- the purge is on one side only, and what is live is shown as before
      obtain ⟨same, drawn, later⟩ := ih dice current.purged tail
      exact ⟨same, drawn, fun time last => later time fun moment member => last moment (List.mem_cons_of_mem _ member)⟩
    | some task =>
      have done := fulfil_alike service source dice current task
      rcases one : service.fulfil source instant (dice, left) task with ⟨report, drawn, first⟩
      rcases other : service.fulfil source instant (dice, right) task with ⟨_, _, second⟩
      rw [one, other] at done
      obtain ⟨rfl, rfl, next⟩ := done
      obtain ⟨reports, finish, later⟩ := ih drawn next tail
      simp only [List.filter_cons, Round.isTask, Option.isSome_some, if_true, fulfilAll, one, other]
      rw [next.rows.sorted_eq, reports]
      refine ⟨rfl, finish, ?_⟩
      exact fun time last => later time fun moment member => last moment (List.mem_cons_of_mem _ member)

/-- The same tasks with purges between them and without come to the same and leave tables that show the same. -/
theorem fulfilAll_filter (rounds : List Round) (world : ρ × Table)
    (ordered : (rounds.map Round.now).Pairwise (· ≤ ·)) :
    let one := service.fulfilAll source rounds world
    let other := service.fulfilAll source (rounds.filter Round.isTask) world
    one.1 = other.1 ∧ ∀ time, (∀ round ∈ rounds, round.now ≤ time) → one.2.2.Alike time other.2.2 := by
  cases rounds with
  | nil => exact ⟨rfl, fun time _ => .refl time world.2⟩
  | cons first rest =>
    have begun : (first.now :: (first :: rest).map Round.now).Pairwise (· ≤ ·) := by
      refine List.pairwise_cons.mpr ⟨?_, ordered⟩
      intro instant member
      rcases List.mem_cons.mp member with rfl | later
      · exact Int.le_refl _
      · exact (List.pairwise_cons.mp ordered).1 instant later
    obtain ⟨reports, _, later⟩ :=
      fulfilAll_alike service source (first :: rest) world.1 (.refl first.now world.2) begun
    refine ⟨reports, fun time last => later time ?_⟩
    intro instant member
    rcases List.mem_cons.mp member with rfl | member
    · exact last first List.mem_cons_self
    · obtain ⟨round, inside, rfl⟩ := List.mem_map.mp member
      exact last round inside

/-- Purges between tasks, wherever they are put in, are not seen: every task comes to the same, with the same entries
live after it, and at each point the same entries are live from then on. A purge takes away the rows with a time that
has come, and no others, and tells their number; where the table cannot be reached it takes nothing. -/
theorem purges_unseen (rounds : List Round) (world : ρ × Table) (ordered : (rounds.map Round.now).Pairwise (· ≤ ·)) :
    ((service.fulfilAll source rounds world).1 =
        (service.fulfilAll source (rounds.filter Round.isTask) world).1) ∧
    (∀ before, before <+: rounds → ∀ time, (∀ round ∈ before, round.now ≤ time) →
      ((service.fulfilAll source before world).2.2.rows.live time).sorted =
        ((service.fulfilAll source (before.filter Round.isTask) world).2.2.rows.live time).sorted) ∧
    ∀ (now : Instant) (table : Table),
      (table.reach = .ready → ∃ rows,
        table.purge now = (.ok (table.rows.entries.countP fun row => row.2.isDue now), { table with rows }) ∧
          rows.entries = table.rows.entries.filter fun row => !row.2.isDue now) ∧
      (table.reach ≠ .ready → table.purge now = (.error (.unavailable "sql purge failed"), table)) := by
  refine ⟨(fulfilAll_filter service source rounds world ordered).1, ?_, ?_⟩
  · intro before front time last
    have sofar : (before.map Round.now).Pairwise (· ≤ ·) := ordered.sublist (front.sublist.map Round.now)
    exact ((fulfilAll_filter service source before world sofar).2 time last).rows.sorted_eq
  · intro now table
    exact ⟨fun ready => ⟨_, Table.purge_ready ready, Shelf.entries_live now table.rows⟩, Table.purge_of_away⟩

/-- A counter is begun anew at the time it expires, whether its row is still there or was purged at that time. -/
theorem purges_unseen_restart :
    let service : Service := ⟨5, 3, 64⟩
    let source : RandomSource Unit := ⟨fun length _ => (.bytes (List.replicate length 7), ())⟩
    let counting : Task := .ask (.increment "attempts:m" (some 5))
    let rounds : List Round := [⟨0, some counting⟩, ⟨1, some counting⟩, ⟨1, some (.create "hello")⟩, ⟨5, none⟩,
      ⟨5, some counting⟩, ⟨6, none⟩, ⟨6, some (.retrieve "m" (Base64.encode (List.replicate 32 7)))⟩]
    let counted : Table := ⟨Shelf.empty.insert "attempts:m" ⟨"2", some 5⟩, .ready, 0⟩
    (rounds.map Round.now).Pairwise (· ≤ ·) ∧
      (service.fulfilAll source rounds ((), Table.empty)).1 =
        (service.fulfilAll source (rounds.filter Round.isTask) ((), Table.empty)).1 ∧
      ((service.fulfilAll source (rounds.take 4) ((), Table.empty)).2.2.rows.live 5).sorted =
        ((service.fulfilAll source ((rounds.take 4).filter Round.isTask) ((), Table.empty)).2.2.rows.live 5).sorted ∧
      ∃ rows, counted.purge 5 = (.ok 1, { counted with rows }) ∧ rows.entries = [] := by
  intro service source counting rounds counted
  have ordered : (rounds.map Round.now).Pairwise (· ≤ ·) := by decide
  obtain ⟨reports, entries, purged⟩ := purges_unseen service source rounds ((), Table.empty) ordered
  exact ⟨ordered, reports, entries (rounds.take 4) (List.take_prefix 4 rounds) 5 (by decide), (purged 5 counted).1 rfl⟩

end Service
end Message
end ReadOnce
