import ReadOnce.Proofs.Store.Steady

/-!
Stores that cannot be told apart. Two of them are alike at a time when the same entries are live in them; what else
they still hold does not matter. Alike stores without faults of their own answer alike and stay alike, so the store
within the process and the store on a table show the same to whoever asks them the same.
-/
namespace ReadOnce.Store

/-- At a time the same entries are live on both shelves. -/
def Alike (now : Instant) (left right : Shelf) : Prop := ∀ key, left.live? now key = right.live? now key

namespace Shelf

private theorem mem_iff_lookup {key : String} {entry : Entry} {entries : List (String × Entry)}
    (distinct : (entries.map Prod.fst).Nodup) : (key, entry) ∈ entries ↔ entries.lookup key = some entry := by
  induction entries with
  | nil => simp
  | cons row rest ih =>
    obtain ⟨fresh, tail⟩ := List.nodup_cons.mp distinct
    rw [List.mem_cons, List.lookup_cons, ih tail]
    by_cases same : key = row.1
    · subst same
      have absent : rest.lookup row.1 ≠ some entry := fun found =>
        fresh (List.mem_map.mpr ⟨_, (ih tail).mpr found, rfl⟩)
      simp [absent, Prod.ext_iff, eq_comm]
    · have apart : (key == row.1) = false := by simpa using same
      simp [apart, same, Prod.ext_iff]

theorem mem_entries {shelf : Shelf} {key : String} {entry : Entry} :
    (key, entry) ∈ shelf.entries ↔ shelf.find? key = some entry := mem_iff_lookup shelf.distinct

theorem mem_live {now : Instant} {shelf : Shelf} {row : String × Entry} :
    row ∈ (shelf.live now).entries ↔ shelf.live? now row.1 = some row.2 := by
  rw [live?_eq_some, ← mem_entries]
  exact List.mem_filter

theorem find?_live {now : Instant} {shelf : Shelf} {key : String} :
    (shelf.live now).find? key = shelf.live? now key := by
  apply Option.ext
  intro entry
  rw [← mem_entries, mem_live]

theorem pairwise_sorted (shelf : Shelf) :
    shelf.sorted.Pairwise fun left right => decide (left.1 ≤ right.1) = true := by
  apply List.pairwise_mergeSort
  · intro first second third lower upper
    exact decide_eq_true (String.le_trans (of_decide_eq_true lower) (of_decide_eq_true upper))
  · intro first second
    simpa using String.le_total first.1 second.1

theorem nodup_entries (shelf : Shelf) : shelf.entries.Nodup :=
  List.Pairwise.of_map Prod.fst (fun _ _ apart same => apart (congrArg Prod.fst same)) shelf.distinct

end Shelf

namespace Alike

variable {now : Instant} {left right : Shelf}

theorem sorted_eq (alike : Alike now left right) : (left.live now).sorted = (right.live now).sorted := by
  have same : (left.live now).entries.Perm (right.live now).entries := by
    refine (List.perm_ext_iff_of_nodup (left.live now).nodup_entries (right.live now).nodup_entries).mpr ?_
    intro row
    rw [Shelf.mem_live, Shelf.mem_live, alike row.1]
  have perm : (left.live now).sorted.Perm (right.live now).sorted :=
    ((List.mergeSort_perm _ _).trans same).trans (List.mergeSort_perm _ _).symm
  refine List.Perm.eq_of_pairwise ?_ (Shelf.pairwise_sorted _) (Shelf.pairwise_sorted _) perm
  intro first second there here lower upper
  have key : first.1 = second.1 := String.le_antisymm (of_decide_eq_true lower) (of_decide_eq_true upper)
  have found := Shelf.mem_live.mp ((List.mergeSort_perm _ _).mem_iff.mp there)
  have other := Shelf.mem_live.mp ((List.mergeSort_perm _ _).mem_iff.mp here)
  rw [alike, key, other] at found
  exact Prod.ext key (Option.some.inj found).symm

/-- As time goes on entries only cease to be live. -/
theorem later {time : Instant} (alike : Alike now left right) (order : now ≤ time) : Alike time left right := by
  have narrows (shelf : Shelf) (key : String) :
      shelf.live? time key = (shelf.live? now key).filter (·.isLive time) := by
    rw [Shelf.live?, Shelf.live?, Option.filter_filter]
    congr 1
    funext entry
    cases live : entry.isLive time with
    | false => rw [Bool.and_false]
    | true => rw [Entry.isLive_earlier order live]; rfl
  intro key
  rw [narrows, narrows, alike key]

end Alike

theorem Effect.counter_congr {now : Instant} {key : String} {duration : Option Duration} {count : Int}
    {left right left' right' : Shelf} (effect : Effect now left left' (.increment key duration (.ok count)))
    (other : Effect now right right' (.increment key duration (.ok count)))
    (alike : left.live? now key = right.live? now key) : left'.find? key = right'.find? key := by
  rcases effect.of_increment with ⟨absent, _, expires, due, here⟩ | ⟨entry, value, live, next, here⟩
  · rcases other.of_increment with ⟨_, _, time, again, there⟩ | ⟨twin, text, found, _⟩
    · rw [due] at again
      cases again
      exact here.trans there.symm
    · rw [absent, found] at alike
      cases alike
  · rcases other.of_increment with ⟨absent, _⟩ | ⟨twin, text, found, again, there⟩
    · rw [absent, live] at alike
      cases alike
    · rw [live, found] at alike
      cases alike
      rw [next] at again
      cases again
      exact here.trans there.symm

/-- After the same exchange the same is live under a key under which it was before. -/
theorem Effect.live?_congr {now : Instant} {exchange : Exchange} {left right left' right' : Shelf}
    (effect : Effect now left left' exchange) (other : Effect now right right' exchange) {key : String}
    (alike : left.live? now key = right.live? now key) : left'.live? now key = right'.live? now key := by
  by_cases same : key = exchange.key
  · have written (here : left'.find? key = right'.find? key) : left'.live? now key = right'.live? now key := by
      rw [Shelf.live?, here, Shelf.live?]
    have tidied (first : Tidied now exchange.key left left') (second : Tidied now exchange.key right right') :
        left'.live? now key = right'.live? now key := by
      rw [first.live?_eq, second.live?_eq, alike]
    subst same
    cases effect with
    | stored due here others =>
      obtain ⟨time, again, there, _⟩ := other.of_put
      rw [due] at again
      cases again
      exact written (here.trans there.symm)
    | read found first => exact tidied first other.of_get.2
    | removed found here others => exact written (here.trans other.of_delete.2.1.symm)
    | begun absent due here others =>
      exact written (Effect.counter_congr (.begun absent due here others) other alike)
    | grown live next here others =>
      exact written (Effect.counter_congr (.grown live next here others) other alike)
    | refused failed first => exact tidied first (other.of_fault failed)
  · rw [Shelf.live?, Shelf.live?] at alike ⊢
    rw [effect.others key same, other.others key same, alike]

/-- The same exchange leaves alike shelves alike. -/
theorem Effect.alike {now : Instant} {exchange : Exchange} {left right left' right' : Shelf}
    (effect : Effect now left left' exchange) (other : Effect now right right' exchange)
    (alike : Alike now left right) : Alike now left' right' := by
  intro key
  exact effect.live?_congr other (alike key)

/-- What may be asked of a store. -/
inductive Question where
  | put (key value : String) (duration : Duration)
  | get (key : String)
  | delete (key : String)
  | increment (key : String) (duration : Option Duration)

namespace Question

/-- Asks a store, and gives the question together with the answer. -/
def ask {σ : Type} (store : KeyValueStore σ) (now : Instant) (state : σ) : Question → Exchange × σ
  | put key value duration =>
    let (answer, next) := store.put now key value duration state
    (.put key value duration answer, next)
  | get key =>
    let (answer, next) := store.get now key state
    (.get key answer, next)
  | delete key =>
    let (answer, next) := store.delete now key state
    (.delete key answer, next)
  | increment key duration =>
    let (answer, next) := store.increment now key duration state
    (.increment key duration answer, next)

/-- The calendar has the time at which what is stored now expires. -/
def Dated (now : Instant) : Question → Prop
  | put _ _ duration | increment _ (some duration) => (now.after? duration).isSome
  | _ => True

instance (now : Instant) : DecidablePred (Dated now)
  | put _ _ duration | increment _ (some duration) => inferInstanceAs (Decidable ((now.after? duration).isSome = true))
  | get _ | delete _ | increment _ none => inferInstanceAs (Decidable True)

theorem ask_effect {σ : Type} {store : KeyValueStore σ} {shelf : σ → Shelf} (lawful : store.Lawful shelf)
    (now : Instant) (state : σ) (question : Question) :
    Effect now (shelf state) (shelf (question.ask store now state).2) (question.ask store now state).1 := by
  cases question with
  | put key value duration => exact lawful.put now key value duration state
  | get key => exact lawful.get now key state
  | delete key => exact lawful.delete now key state
  | increment key duration => exact lawful.increment now key duration state

theorem ask_steady {state : Backend} (steady : state.Steady) (now : Instant) (question : Question) :
    (question.ask Backend.interface now state).2.Steady := by
  cases question with
  | put key value duration => exact steady.after_put now key value duration
  | get key => exact steady.after_get now key
  | delete key => exact steady.after_delete now key
  | increment key duration => exact steady.after_increment now key duration

theorem Dated.counterExpiry {now : Instant} {key : String} {duration : Option Duration}
    (dated : Dated now (.increment key duration)) : ∃ expires, counterExpiry now duration = .ok expires := by
  cases duration with
  | none => exact ⟨none, rfl⟩
  | some duration => exact ⟨_, counterExpiry_of_after? dated⟩

theorem ask_answer {now : Instant} {left right : Backend} (steady : left.Steady) (other : right.Steady)
    (alike : Alike now left.shelf right.shelf) {question : Question} (dated : question.Dated now) :
    (question.ask Backend.interface now left).1 = (question.ask Backend.interface now right).1 := by
  cases question with
  | put key value duration =>
    simp only [ask]
    rw [steady.answer_put, other.answer_put]
  | get key =>
    obtain ⟨_, here, _⟩ := Backend.working.read Backend.lawful steady now key
    obtain ⟨_, there, _⟩ := Backend.working.read Backend.lawful other now key
    simp only [ask, here, there, alike key]
  | delete key =>
    obtain ⟨_, here, _⟩ := Backend.working.remove Backend.lawful steady now key
    obtain ⟨_, there, _⟩ := Backend.working.remove Backend.lawful other now key
    simp only [ask, here, there, alike key]
  | increment key duration =>
    obtain ⟨expires, due⟩ := dated.counterExpiry
    simp only [ask]
    rw [steady.answer_increment key due, other.answer_increment key due, alike key]

end Question

/-- What is asked of a store, and when. -/
structure Inquiry where
  now : Instant
  question : Question

/-- What is seen of a store that is asked one thing after another: each time the answer, and all that is live then. -/
def KeyValueStore.observe {σ : Type} (store : KeyValueStore σ) (shelf : σ → Shelf) :
    List Inquiry → σ → List (Exchange × List (String × Entry))
  | [], _ => []
  | inquiry :: rest, state =>
    let (exchange, next) := inquiry.question.ask store inquiry.now state
    (exchange, ((shelf next).live inquiry.now).sorted) :: store.observe shelf rest next

/-- Alike stores are seen alike, whatever they are asked while the clock is not set back. -/
theorem Alike.observe_eq {now : Instant} {left right : Backend} (inquiries : List Inquiry) (steady : left.Steady)
    (other : right.Steady) (alike : Alike now left.shelf right.shelf)
    (ordered : (now :: inquiries.map Inquiry.now).Pairwise (· ≤ ·))
    (dated : ∀ inquiry ∈ inquiries, inquiry.question.Dated inquiry.now) :
    Backend.interface.observe Backend.shelf inquiries left =
      Backend.interface.observe Backend.shelf inquiries right := by
  induction inquiries generalizing now left right with
  | nil => rfl
  | cons inquiry rest ih =>
    obtain ⟨least, tail⟩ := List.pairwise_cons.mp ordered
    have current := alike.later (least inquiry.now List.mem_cons_self)
    have answer := Question.ask_answer steady other current (dated inquiry List.mem_cons_self)
    have effect := Question.ask_effect Backend.lawful inquiry.now left inquiry.question
    have again := Question.ask_effect Backend.lawful inquiry.now right inquiry.question
    rw [answer] at effect
    have next := effect.alike again current
    simp only [KeyValueStore.observe]
    rw [answer, next.sorted_eq]
    congr 1
    exact ih (Question.ask_steady steady inquiry.now _) (Question.ask_steady other inquiry.now _) next tail
      fun later member => dated later (List.mem_cons_of_mem _ member)

theorem observe_memory (inquiries : List Inquiry) (store : Memory) :
    Backend.interface.observe Backend.shelf inquiries (.memory store) =
      Memory.interface.observe Memory.shelf inquiries store := by
  induction inquiries generalizing store with
  | nil => rfl
  | cons inquiry rest ih =>
    have same : inquiry.question.ask Backend.interface inquiry.now (.memory store) =
        ((inquiry.question.ask Memory.interface inquiry.now store).1,
          .memory (inquiry.question.ask Memory.interface inquiry.now store).2) := by
      cases inquiry.question <;> rfl
    simp only [KeyValueStore.observe, same, ih]
    rfl

theorem observe_table (inquiries : List Inquiry) (table : Table) :
    Backend.interface.observe Backend.shelf inquiries (.table table) =
      Table.interface.observe Table.rows inquiries table := by
  induction inquiries generalizing table with
  | nil => rfl
  | cons inquiry rest ih =>
    have same : inquiry.question.ask Backend.interface inquiry.now (.table table) =
        ((inquiry.question.ask Table.interface inquiry.now table).1,
          .table (inquiry.question.ask Table.interface inquiry.now table).2) := by
      cases inquiry.question <;> rfl
    simp only [KeyValueStore.observe, same, ih]
    rfl

/-- Asked the same things, the store within the process and the store on a table give the same answers and errors, and
after each of them the same entries are live: what the one has removed and the other only lets expire is not seen. -/
theorem observe_memory_eq_observe_table (inquiries : List Inquiry)
    (ordered : (inquiries.map Inquiry.now).Pairwise (· ≤ ·))
    (dated : ∀ inquiry ∈ inquiries, inquiry.question.Dated inquiry.now) :
    Memory.interface.observe Memory.shelf inquiries Memory.empty =
      Table.interface.observe Table.rows inquiries Table.empty := by
  have alike (now : Instant) : Alike now (Backend.memory .empty).shelf (Backend.table .empty).shelf := fun _ => rfl
  rw [← observe_memory, ← observe_table]
  cases inquiries with
  | nil => rfl
  | cons first rest =>
    refine (alike first.now).observe_eq (first :: rest) trivial ⟨rfl, Nat.zero_lt_two⟩ ?_ dated
    refine List.pairwise_cons.mpr ⟨?_, ordered⟩
    intro time member
    rcases List.mem_cons.mp member with rfl | later
    · exact Int.le_refl _
    · exact (List.pairwise_cons.mp ordered).1 time later

/-- A value that is no number is counted on from before and after it has expired, read and removed in between. -/
theorem observe_memory_eq_observe_table_expired :
    let inquiries : List Inquiry := [⟨0, .put "key" "word" 5⟩, ⟨1, .increment "key" none⟩, ⟨5, .get "key"⟩,
      ⟨5, .delete "key"⟩, ⟨5, .put "key" "word" (-1)⟩, ⟨6, .increment "key" (some 0)⟩, ⟨6, .increment "key" none⟩,
      ⟨6, .increment "key" (some 5)⟩, ⟨9, .delete "key"⟩]
    (inquiries.map Inquiry.now).Pairwise (· ≤ ·) ∧ (∀ inquiry ∈ inquiries, inquiry.question.Dated inquiry.now) ∧
      Memory.interface.observe Memory.shelf inquiries Memory.empty =
        Table.interface.observe Table.rows inquiries Table.empty := by
  intro inquiries
  have ordered : (inquiries.map Inquiry.now).Pairwise (· ≤ ·) := by decide
  have dated : ∀ inquiry ∈ inquiries, inquiry.question.Dated inquiry.now := by decide
  exact ⟨ordered, dated, observe_memory_eq_observe_table inquiries ordered dated⟩

end ReadOnce.Store
