import ReadOnce.Proofs.Delivery
import ReadOnce.Proofs.Numeral

/-!
What calls do to the count of attempts at a message. A counter begun after its envelope was stored expires no earlier
than the envelope, so while the envelope is there the counter is neither forgotten nor, as nobody has won the text
yet, removed. Each attempt then has a number of its own, and only those within the budget get to see the envelope.
-/
namespace ReadOnce.Message

open Store

variable {ρ : Type}

/-- Whether a value was read under a key. -/
def obtains (key : String) : Exchange → Bool
  | .get other (.ok (some _)) => other = key
  | _ => false

/-- The number that a call gives to an attempt while the envelope is live. -/
def attempt? (id : String) (call : Call Backend) : Option Int :=
  match call.exchange with
  | .increment key _ (.ok number) =>
    if key = Key.attempts id ∧ (call.before.shelf.live? call.now (Key.message id)).isSome then some number else none
  | _ => none

namespace Traffic

/-- How many calls have read the envelope of a message. -/
def obtained (id : String) (traffic : Traffic Backend) : Nat :=
  traffic.store.calls.countP (obtains (Key.message id) ·.exchange)

/-- The numbers given to attempts while the envelope of a message was live, the latest first. -/
def attempts (id : String) (traffic : Traffic Backend) : List Int := traffic.store.calls.filterMap (attempt? id)

end Traffic

namespace Operation

/-- The settings that an operation follows. -/
def service : Operation → Service
  | creation service _ | retrieval service _ _ _ => service

/-- Whether an operation retrieves a message. -/
def retrieves (id : String) : Operation → Bool
  | retrieval _ other _ _ => other = id
  | creation _ _ => false

/-- Whether an operation is about to read the envelope of a message. -/
def fetches (id : String) : Operation → Bool
  | .retrieval _ other _ (.fetching _) => other = id
  | _ => false

/-- Whether an operation is about to remove the counter of a message. -/
def clears (id : String) : Operation → Bool
  | .retrieval _ other _ (.clearing _) => other = id
  | _ => false

end Operation

/-- The settings that a turn brings along. -/
def Turn.service? : Turn ρ → Option Service
  | create service _ _ _ | retrieve service _ _ => some service
  | call _ _ => none

/-- Whether a turn begins to retrieve a message. -/
def Turn.retrieves (id : String) : Turn ρ → Bool
  | retrieve _ other _ => other = id
  | _ => false

theorem Turn.service?_of_begins? {turn : Turn ρ} {operation : Operation} (asked : turn.begins? = some operation) :
    turn.service? = some operation.service := by
  cases turn with
  | create service source dice text => cases asked; rfl
  | retrieve service id key =>
    cases asked
    simp only [Operation.retrieve]
    cases keyOf id key <;> rfl
  | call caller failure => cases asked

theorem Turn.retrieves_of_begins? {turn : Turn ρ} {operation : Operation} (id : String)
    (asked : turn.begins? = some operation) : turn.retrieves id = operation.retrieves id := by
  cases turn with
  | create service source dice text => cases asked; rfl
  | retrieve service other key =>
    cases asked
    simp only [Operation.retrieve]
    cases keyOf other key <;> rfl
  | call caller failure => cases asked

theorem Operation.begun_fetches {turn : Turn ρ} {operation : Operation} (id : String)
    (asked : turn.begins? = some operation) : operation.fetches id = false ∧ operation.clears id = false := by
  cases turn with
  | create service source dice text => cases asked; exact ⟨rfl, rfl⟩
  | retrieve service other key =>
    cases asked
    simp only [Operation.retrieve]
    cases keyOf other key <;> exact ⟨rfl, rfl⟩
  | call caller failure => cases asked

theorem Moves.service_eq {operation next : Operation} {exchange : Exchange} (moves : Moves operation next exchange) :
    next.service = operation.service := by
  cases moves <;> rfl

theorem Moves.retrieves_eq {operation next : Operation} {exchange : Exchange} (id : String)
    (moves : Moves operation next exchange) : next.retrieves id = operation.retrieves id := by
  cases moves <;> rfl

/-- The numbers from a count down to one. -/
def countdown : Nat → List Int
  | 0 => []
  | count + 1 => (count + 1 : Nat) :: countdown count

theorem mem_countdown {count : Nat} {number : Int} (member : number ∈ countdown count) :
    1 ≤ number ∧ number ≤ count := by
  induction count with
  | zero => cases member
  | succ count ih =>
    rcases List.mem_cons.mp member with rfl | later
    · omega
    · have bounds := ih later
      omega

theorem nodup_countdown (count : Nat) : (countdown count).Nodup := by
  induction count with
  | zero => exact List.nodup_nil
  | succ count ih =>
    refine List.nodup_cons.mpr ⟨?_, ih⟩
    intro member
    have bounds := mem_countdown member
    omega

/-- What is so while the envelope is live: the counter shows how many attempts there were, those that are about to
read the envelope are among them, and nobody is about to remove the counter. -/
structure Open (id : String) (service : Service) (count : Nat) (traffic : Traffic Backend) : Prop where
  unbegun : count = 0 → traffic.store.store.shelf.find? (Key.attempts id) = none
  counted : 0 < count → count < Text.numeralLimit ∧ ∃ expires,
    traffic.store.store.shelf.find? (Key.attempts id) = some ⟨toString (count : Int), expires⟩
  pending : traffic.obtained id + traffic.operations.countP (·.fetches id) ≤ min count service.maxTries.toNat
  unclaimed : traffic.operations.countP (·.clears id) = 0

/-- What is so at any time after a message was stored to expire at a given time, with as many attempts so far while
it was live. -/
structure Guarded (id : String) (service : Service) (due now : Instant) (count : Nat) (traffic : Traffic Backend) :
    Prop where
  late : due ≤ now + service.retention
  shared : ∀ operation ∈ traffic.operations, operation.service = service
  envelope : ∀ entry, traffic.store.store.shelf.find? (Key.message id) = some entry → entry.expires = some due
  counter : ∀ entry, traffic.store.store.shelf.find? (Key.attempts id) = some entry →
    ∃ time, entry.expires = some time ∧ due ≤ time
  numbers : traffic.attempts id = countdown count
  spent : traffic.obtained id ≤ service.maxTries.toNat
  whileLive : (traffic.store.store.shelf.live? now (Key.message id)).isSome → Open id service count traffic

section Steps

variable {id : String} {service : Service} {due now : Instant} {count : Nat} {before : Traffic Backend}

theorem Guarded.later {time : Instant} (guarded : Guarded id service due now count before) (order : now ≤ time) :
    Guarded id service due time count before where
  late := Int.le_trans guarded.late (Int.add_le_add_right order _)
  shared := guarded.shared
  envelope := guarded.envelope
  counter := guarded.counter
  numbers := guarded.numbers
  spent := guarded.spent
  whileLive live := by
    obtain ⟨entry, found⟩ := Option.isSome_iff_exists.mp live
    obtain ⟨here, fresh⟩ := Shelf.live?_eq_some.mp found
    have earlier := Shelf.live?_eq_some.mpr ⟨here, Entry.isLive_earlier order fresh⟩
    exact guarded.whileLive (by rw [earlier]; rfl)

theorem Guarded.begun {operation : Operation} {event : Event ρ} (guarded : Guarded id service due now count before)
    (asked : event.turn.begins? = some operation) (settings : operation.service = service) :
    Guarded id service due now count ⟨before.operations ++ [operation], before.store⟩ where
  late := guarded.late
  shared other member := by
    rcases List.mem_append.mp member with old | new
    · exact guarded.shared other old
    · exact List.mem_singleton.mp new ▸ settings
  envelope := guarded.envelope
  counter := guarded.counter
  numbers := guarded.numbers
  spent := guarded.spent
  whileLive live := by
    have opened := guarded.whileLive live
    obtain ⟨fetches, clears⟩ := Operation.begun_fetches id asked
    refine ⟨opened.unbegun, opened.counted, ?_, ?_⟩
    · rw [List.countP_append, List.countP_singleton, fetches]
      exact opened.pending
    · rw [List.countP_append, List.countP_singleton, clears]
      exact opened.unclaimed

/-- While the envelope is live, so is a counter that is there. -/
theorem Guarded.counter_live {entry : Entry} (guarded : Guarded id service due now count before)
    (live : (before.store.store.shelf.live? now (Key.message id)).isSome)
    (found : before.store.store.shelf.find? (Key.attempts id) = some entry) :
    before.store.store.shelf.live? now (Key.attempts id) = some entry := by
  obtain ⟨envelope, there⟩ := Option.isSome_iff_exists.mp live
  obtain ⟨here, fresh⟩ := Shelf.live?_eq_some.mp there
  obtain ⟨time, expires, order⟩ := guarded.counter entry found
  refine Shelf.live?_eq_some.mpr ⟨found, ?_⟩
  simp only [Entry.isLive, guarded.envelope envelope here, decide_eq_true_eq] at fresh
  simp only [Entry.isLive, expires, decide_eq_true_eq]
  exact Int.lt_of_lt_of_le fresh order

section Calls

variable {caller : Nat} {operation next : Operation} {store : Recorded Backend} {exchange : Exchange}

theorem Guarded.shared_set (guarded : Guarded id service due now count before)
    (turn : before.operations[caller]? = some operation) (settings : next.service = operation.service) :
    ∀ other ∈ before.operations.set caller next, other.service = service := by
  intro other member
  rcases List.mem_or_eq_of_mem_set member with old | rfl
  · exact guarded.shared other old
  · exact settings.trans (guarded.shared operation (List.mem_of_getElem? turn))

private theorem obtained_called (calls : store.calls = ⟨now, before.store.store, exchange⟩ :: before.store.calls) :
    (Traffic.mk (before.operations.set caller next) store).obtained id =
      before.obtained id + (obtains (Key.message id) exchange).toNat := by
  simp only [Traffic.obtained, calls, Traffic.countP_cons_toNat]

/-- An operation that reads the envelope was counted among those about to read it. -/
theorem Open.unnumbered (opened : Open id service count before)
    (turn : before.operations[caller]? = some operation)
    (calls : store.calls = ⟨now, before.store.store, exchange⟩ :: before.store.calls)
    (paid : (obtains (Key.message id) exchange).toNat ≤ (operation.fetches id).toNat)
    (quiet : next.fetches id = false ∧ next.clears id = false)
    (same : store.store.shelf.find? (Key.attempts id) = before.store.store.shelf.find? (Key.attempts id)) :
    Open id service count ⟨before.operations.set caller next, store⟩ := by
  have fetching := Traffic.countP_set_toNat (·.fetches id) next turn
  rw [quiet.1, Bool.toNat_false] at fetching
  have clearing := Traffic.countP_set_toNat (·.clears id) next turn
  rw [quiet.2, opened.unclaimed, Bool.toNat_false] at clearing
  have pending := opened.pending
  refine ⟨fun zero => same.trans (opened.unbegun zero), fun positive => ?_, ?_, ?_⟩
  · rw [same]
    exact opened.counted positive
  · rw [obtained_called calls]
    dsimp only
    omega
  · dsimp only
    omega

/-- A call that gives no number to an attempt. -/
theorem Guarded.unnumbered (guarded : Guarded id service due now count before)
    (turn : before.operations[caller]? = some operation) (settings : next.service = operation.service)
    (calls : store.calls = ⟨now, before.store.store, exchange⟩ :: before.store.calls)
    (silent : attempt? id ⟨now, before.store.store, exchange⟩ = none)
    (reader : obtains (Key.message id) exchange = true →
      (before.store.store.shelf.live? now (Key.message id)).isSome ∧ operation.fetches id = true)
    (envelope : ∀ entry, store.store.shelf.find? (Key.message id) = some entry →
      before.store.store.shelf.find? (Key.message id) = some entry)
    (counter : ∀ entry, store.store.shelf.find? (Key.attempts id) = some entry →
      ∃ time, entry.expires = some time ∧ due ≤ time)
    (kept : (store.store.shelf.live? now (Key.message id)).isSome →
      (next.fetches id = false ∧ next.clears id = false) ∧
        store.store.shelf.find? (Key.attempts id) = before.store.store.shelf.find? (Key.attempts id)) :
    Guarded id service due now count ⟨before.operations.set caller next, store⟩ := by
  refine ⟨guarded.late, guarded.shared_set turn settings,
    fun entry found => guarded.envelope entry (envelope entry found), counter, ?_, ?_, ?_⟩
  · simp only [Traffic.attempts, calls, List.filterMap_cons, silent]
    exact guarded.numbers
  · rw [obtained_called calls]
    cases read : obtains (Key.message id) exchange with
    | false => exact guarded.spent
    | true =>
      -- the reader was one of those about to read, so what was read stays within the budget
      obtain ⟨live, fetches⟩ := reader read
      have pending := (guarded.whileLive live).pending
      have reading : 0 < before.operations.countP (·.fetches id) :=
        List.countP_pos_iff.mpr ⟨operation, List.mem_of_getElem? turn, fetches⟩
      rw [Bool.toNat_true]
      omega
  · intro live
    obtain ⟨entry, found⟩ := Option.isSome_iff_exists.mp live
    obtain ⟨here, fresh⟩ := Shelf.live?_eq_some.mp found
    have earlier := Shelf.live?_eq_some.mpr ⟨envelope entry here, fresh⟩
    have paid : (obtains (Key.message id) exchange).toNat ≤ (operation.fetches id).toNat := by
      cases read : obtains (Key.message id) exchange with
      | false => exact Nat.zero_le _
      | true => exact Nat.le_of_eq (congrArg Bool.toNat (reader read).2.symm)
    obtain ⟨quiet, same⟩ := kept live
    exact (guarded.whileLive (by rw [earlier]; rfl)).unnumbered turn calls paid quiet same

theorem Operation.quiet_of_elsewhere (apart : operation.retrieves id = false) :
    operation.fetches id = false ∧ operation.clears id = false := by
  cases operation with
  | creation settings stage => exact ⟨rfl, rfl⟩
  | retrieval settings other key stage =>
    cases stage with
    | fetching number => exact ⟨apart, rfl⟩
    | clearing text => exact ⟨rfl, apart⟩
    | _ => exact ⟨rfl, rfl⟩

theorem attempt?_elsewhere (apart : exchange.key ≠ Key.attempts id) :
    attempt? id ⟨now, before.store.store, exchange⟩ = none := by
  cases exchange with
  | increment key duration answer =>
    cases answer with
    | ok number => exact if_neg fun both => apart both.1
    | error fault => rfl
  | _ => rfl

private theorem obtains_elsewhere (apart : exchange.key ≠ Key.message id) :
    obtains (Key.message id) exchange = false := by
  unfold obtains
  split
  · exact decide_eq_false apart
  · rfl

theorem Guarded.elsewhere (guarded : Guarded id service due now count before)
    (turn : before.operations[caller]? = some operation) (settings : next.service = operation.service)
    (calls : store.calls = ⟨now, before.store.store, exchange⟩ :: before.store.calls)
    (others : SameBut exchange.key before.store.store.shelf store.store.shelf)
    (apart : Key.message id ≠ exchange.key ∧ Key.attempts id ≠ exchange.key) (other : next.retrieves id = false) :
    Guarded id service due now count ⟨before.operations.set caller next, store⟩ := by
  refine guarded.unnumbered turn settings calls (attempt?_elsewhere apart.2.symm) ?_ ?_ ?_ ?_
  · intro read
    rw [obtains_elsewhere apart.1.symm] at read
    cases read
  · rw [others _ apart.1]
    exact fun _ found => found
  · rw [others _ apart.2]
    exact guarded.counter
  · exact fun _ => ⟨Operation.quiet_of_elsewhere other, others _ apart.2⟩

/-- A call that at most forgets an entry that had expired. -/
theorem Guarded.tidied {key : String} (guarded : Guarded id service due now count before)
    (turn : before.operations[caller]? = some operation) (settings : next.service = operation.service)
    (calls : store.calls = ⟨now, before.store.store, exchange⟩ :: before.store.calls)
    (silent : attempt? id ⟨now, before.store.store, exchange⟩ = none)
    (reader : obtains (Key.message id) exchange = true →
      (before.store.store.shelf.live? now (Key.message id)).isSome ∧ operation.fetches id = true)
    (quiet : next.fetches id = false ∧ next.clears id = false)
    (tidied : Tidied now key before.store.store.shelf store.store.shelf) :
    Guarded id service due now count ⟨before.operations.set caller next, store⟩ := by
  refine guarded.unnumbered turn settings calls silent reader (fun _ found => tidied.found found)
    (fun entry found => guarded.counter entry (tidied.found found)) ?_
  intro live
  obtain ⟨entry, found⟩ := Option.isSome_iff_exists.mp live
  obtain ⟨here, fresh⟩ := Shelf.live?_eq_some.mp found
  have earlier := Shelf.live?_eq_some.mpr ⟨tidied.found here, fresh⟩
  refine ⟨quiet, ?_⟩
  by_cases same : Key.attempts id = key
  · subst same
    rcases tidied.here with kept | ⟨expired, gone⟩
    · exact kept
    -- a counter that was there was live with the envelope, so what is gone was not there
    · cases there : before.store.store.shelf.find? (Key.attempts id) with
      | none => exact gone
      | some counter =>
        have counting := guarded.counter_live (by rw [earlier]; rfl) there
        rw [counting] at expired
        cases expired
  · exact tidied.others _ same

theorem Guarded.gone {removed : Bool} (guarded : Guarded id service due now count before)
    (turn : before.operations[caller]? = some operation) (settings : next.service = operation.service)
    (calls : store.calls = ⟨now, before.store.store, .delete (Key.message id) (.ok removed)⟩ :: before.store.calls)
    (here : store.store.shelf.find? (Key.message id) = none)
    (others : SameBut (Key.message id) before.store.store.shelf store.store.shelf) :
    Guarded id service due now count ⟨before.operations.set caller next, store⟩ := by
  refine guarded.unnumbered turn settings calls rfl (fun read => absurd read Bool.false_ne_true) ?_ ?_ ?_
  · intro entry found
    rw [here] at found
    cases found
  · rw [others _ (Key.message_ne_attempts id id).symm]
    exact guarded.counter
  · intro live
    simp [Shelf.live?, here] at live

/-- A call that removes the counter: whoever makes it has won the text, and the envelope is gone. -/
theorem Guarded.cleared {removed : Bool} (guarded : Guarded id service due now count before)
    (turn : before.operations[caller]? = some operation) (settings : next.service = operation.service)
    (calls : store.calls = ⟨now, before.store.store, .delete (Key.attempts id) (.ok removed)⟩ :: before.store.calls)
    (winner : operation.clears id = true) (here : store.store.shelf.find? (Key.attempts id) = none)
    (others : SameBut (Key.attempts id) before.store.store.shelf store.store.shelf) :
    Guarded id service due now count ⟨before.operations.set caller next, store⟩ := by
  have same := others _ (Key.message_ne_attempts id id)
  refine guarded.unnumbered turn settings calls rfl (fun read => absurd read Bool.false_ne_true) ?_ ?_ ?_
  · rw [same]
    exact fun _ found => found
  · intro entry found
    rw [here] at found
    cases found
  · intro live
    rw [Shelf.live?, same] at live
    -- while the envelope is live no one is about to remove the counter
    have unclaimed := (guarded.whileLive live).unclaimed
    have claimed : 0 < before.operations.countP (·.clears id) :=
      List.countP_pos_iff.mpr ⟨operation, List.mem_of_getElem? turn, winner⟩
    omega

/-- However a counter came to be counted, it expires no earlier than the envelope. -/
theorem Guarded.counter_after {number : Int} (guarded : Guarded id service due now count before)
    (effect : Effect now before.store.store.shelf store.store.shelf
      (.increment (Key.attempts id) (some service.retention) (.ok number))) :
    ∀ entry, store.store.shelf.find? (Key.attempts id) = some entry →
      ∃ time, entry.expires = some time ∧ due ≤ time := by
  intro entry there
  rcases effect.of_increment with ⟨_, _, expires, reached, here⟩ | ⟨former, value, found, _, here⟩
  · rw [here] at there
    cases there
    exact ⟨_, counterExpiry_eq reached, guarded.late⟩
  · rw [here] at there
    cases there
    obtain ⟨time, expires, order⟩ := guarded.counter _ (Shelf.live?_eq_some.mp found).1
    exact ⟨time, expires, order⟩

/-- While the envelope is live, the number of an attempt is one more than there were attempts so far. -/
theorem Guarded.numbered {number : Int} (guarded : Guarded id service due now count before)
    (live : (before.store.store.shelf.live? now (Key.message id)).isSome)
    (effect : Effect now before.store.store.shelf store.store.shelf
      (.increment (Key.attempts id) (some service.retention) (.ok number))) :
    number = (count + 1 : Nat) ∧ count + 1 < Text.numeralLimit ∧ ∃ expires,
      store.store.shelf.find? (Key.attempts id) = some ⟨toString ((count + 1 : Nat) : Int), expires⟩ := by
  have opened := guarded.whileLive live
  rcases effect.of_increment with ⟨absent, rfl, expires, _, here⟩ | ⟨former, value, found, following, here⟩
  · rcases Nat.eq_zero_or_pos count with rfl | positive
    · exact ⟨rfl, Text.Numeral.one_lt_numeralLimit, _, here⟩
    · obtain ⟨_, expires, there⟩ := opened.counted positive
      rw [guarded.counter_live live there] at absent
      cases absent
  · rcases Nat.eq_zero_or_pos count with rfl | positive
    · rw [Shelf.live?, opened.unbegun rfl] at found
      cases found
    · obtain ⟨small, expires, there⟩ := opened.counted positive
      rw [guarded.counter_live live there] at found
      cases found
      obtain ⟨rfl, rfl, smaller⟩ := nextCount_toString_ok small following
      exact ⟨rfl, smaller, _, here⟩

theorem Open.advance {bytes : Bytes} (opened : Open id service count before)
    (turn : before.operations[caller]? = some (.retrieval service id bytes .counting))
    (calls : store.calls = ⟨now, before.store.store,
      .increment (Key.attempts id) (some service.retention) (.ok ((count + 1 : Nat) : Int))⟩ :: before.store.calls)
    (counts : next = .retrieval service id bytes
      (if service.maxTries < ((count + 1 : Nat) : Int) then .discarding else .fetching ((count + 1 : Nat) : Int)))
    (small : count + 1 < Text.numeralLimit) {expires : Option Instant}
    (there : store.store.shelf.find? (Key.attempts id) = some ⟨toString ((count + 1 : Nat) : Int), expires⟩) :
    Open id service (count + 1) ⟨before.operations.set caller next, store⟩ := by
  refine ⟨fun zero => absurd zero (Nat.succ_ne_zero count), fun _ => ⟨small, _, there⟩, ?_, ?_⟩
  · have fetching := Traffic.countP_set_toNat (·.fetches id) next turn
    have pending := opened.pending
    have begun : (Operation.retrieval service id bytes .counting).fetches id = false := rfl
    rw [begun, Bool.toNat_false] at fetching
    rw [obtained_called calls]
    by_cases exceeded : service.maxTries < ((count + 1 : Nat) : Int)
    · have idle : next.fetches id = false := by rw [counts, if_pos exceeded]; rfl
      rw [idle, Bool.toNat_false] at fetching
      simp only [obtains, Bool.toNat_false]
      omega
    · have reads : next.fetches id = true := by rw [counts, if_neg exceeded]; exact decide_eq_true rfl
      rw [reads, Bool.toNat_true] at fetching
      simp only [obtains, Bool.toNat_false]
      omega
  · have clearing := Traffic.countP_set_toNat (·.clears id) next turn
    have none : next.clears id = false := by
      rw [counts]
      split <;> rfl
    rw [none, opened.unclaimed] at clearing
    exact (Nat.add_eq_zero_iff.mp clearing).1

theorem Guarded.counted_live {bytes : Bytes} {number : Int} (guarded : Guarded id service due now count before)
    (live : (before.store.store.shelf.live? now (Key.message id)).isSome)
    (turn : before.operations[caller]? = some (.retrieval service id bytes .counting))
    (calls : store.calls = ⟨now, before.store.store,
      .increment (Key.attempts id) (some service.retention) (.ok number)⟩ :: before.store.calls)
    (effect : Effect now before.store.store.shelf store.store.shelf
      (.increment (Key.attempts id) (some service.retention) (.ok number)))
    (counts : next = .retrieval service id bytes
      (if service.maxTries < number then .discarding else .fetching number)) :
    Guarded id service due now (count + 1) ⟨before.operations.set caller next, store⟩ := by
  obtain ⟨rfl, small, expires, there⟩ := guarded.numbered live effect
  refine ⟨guarded.late, guarded.shared_set turn (by rw [counts]; rfl), ?_, guarded.counter_after effect, ?_, ?_,
    fun _ => (guarded.whileLive live).advance turn calls counts small there⟩
  · rw [effect.others _ (Key.message_ne_attempts id id)]
    exact guarded.envelope
  · have given : attempt? id ⟨now, before.store.store, .increment (Key.attempts id) (some service.retention)
        (.ok ((count + 1 : Nat) : Int))⟩ = some ((count + 1 : Nat) : Int) := if_pos ⟨rfl, live⟩
    simp only [Traffic.attempts, calls, List.filterMap_cons, given, countdown]
    exact congrArg _ guarded.numbers
  · rw [obtained_called calls]
    exact guarded.spent

/-- An attempt is counted, but there is nothing left to be attempted. -/
theorem Guarded.counted_gone {bytes : Bytes} {number : Int} (guarded : Guarded id service due now count before)
    (gone : ¬ (before.store.store.shelf.live? now (Key.message id)).isSome)
    (turn : before.operations[caller]? = some (.retrieval service id bytes .counting))
    (calls : store.calls = ⟨now, before.store.store,
      .increment (Key.attempts id) (some service.retention) (.ok number)⟩ :: before.store.calls)
    (effect : Effect now before.store.store.shelf store.store.shelf
      (.increment (Key.attempts id) (some service.retention) (.ok number)))
    (settings : next.service = service) :
    Guarded id service due now count ⟨before.operations.set caller next, store⟩ := by
  have same := effect.others _ (Key.message_ne_attempts id id)
  refine guarded.unnumbered turn settings calls ?_ ?_ ?_ (guarded.counter_after effect) ?_
  · exact if_neg fun both => gone both.2
  · exact fun read => absurd read Bool.false_ne_true
  · rw [same]
    exact fun _ found => found
  · intro after
    rw [Shelf.live?, same] at after
    exact absurd after gone

theorem Guarded.counted {bytes : Bytes} {number : Int} (guarded : Guarded id service due now count before)
    (turn : before.operations[caller]? = some (.retrieval service id bytes .counting))
    (calls : store.calls = ⟨now, before.store.store,
      .increment (Key.attempts id) (some service.retention) (.ok number)⟩ :: before.store.calls)
    (effect : Effect now before.store.store.shelf store.store.shelf
      (.increment (Key.attempts id) (some service.retention) (.ok number)))
    (counts : next = .retrieval service id bytes
      (if service.maxTries < number then .discarding else .fetching number)) :
    ∃ count, Guarded id service due now count ⟨before.operations.set caller next, store⟩ := by
  by_cases live : (before.store.store.shelf.live? now (Key.message id)).isSome
  · exact ⟨count + 1, guarded.counted_live live turn calls effect counts⟩
  · exact ⟨count, guarded.counted_gone live turn calls effect (by rw [counts]; rfl)⟩

private theorem quiet_examine (settings : Service) (other : String) (key : Bytes) (number : Int)
    (envelope : Option String) :
    (Operation.retrieval settings other key (Retrieval.examine other key number envelope).1).fetches id = false ∧
      (Operation.retrieval settings other key (Retrieval.examine other key number envelope).1).clears id = false := by
  cases envelope with
  | none => exact ⟨rfl, rfl⟩
  | some envelope =>
    simp only [Retrieval.examine]
    cases Retrieval.reveal? envelope key <;> exact ⟨rfl, rfl⟩

private theorem silent_of_fault {fault : StoreFault} (failed : exchange.fault? = some fault) :
    attempt? id ⟨now, before.store.store, exchange⟩ = none ∧ obtains (Key.message id) exchange = false := by
  cases exchange <;> rename_i answer <;> cases answer <;> first | exact ⟨rfl, rfl⟩ | cases failed

private theorem apart_message {target : String} (apart : target ≠ id) :
    Key.message id ≠ Key.message target ∧ Key.attempts id ≠ Key.message target :=
  ⟨fun equal => apart (Key.message_inj.mp equal).symm, (Key.message_ne_attempts target id).symm⟩

private theorem apart_attempts {target : String} (apart : target ≠ id) :
    Key.message id ≠ Key.attempts target ∧ Key.attempts id ≠ Key.attempts target :=
  ⟨Key.message_ne_attempts id target, fun equal => apart (Key.attempts_inj.mp equal).symm⟩

theorem Guarded.failed {fault : StoreFault} (guarded : Guarded id service due now count before)
    (turn : before.operations[caller]? = some operation) (settings : next.service = operation.service)
    (calls : store.calls = ⟨now, before.store.store, exchange⟩ :: before.store.calls)
    (failed : exchange.fault? = some fault) (quiet : next.fetches id = false ∧ next.clears id = false)
    (effect : Effect now before.store.store.shelf store.store.shelf exchange) :
    Guarded id service due now count ⟨before.operations.set caller next, store⟩ := by
  obtain ⟨silent, unread⟩ := silent_of_fault failed
  refine guarded.tidied turn settings calls silent ?_ quiet (effect.of_fault (by rw [failed]; rfl))
  intro read
  rw [unread] at read
  cases read

theorem Guarded.fetched {target : String} {key : Bytes} {number : Int} {envelope : Option String}
    (guarded : Guarded id service due now count before)
    (turn : before.operations[caller]? = some (.retrieval service target key (.fetching number)))
    (calls : store.calls = ⟨now, before.store.store, .get (Key.message target) (.ok envelope)⟩ :: before.store.calls)
    (effect : Effect now before.store.store.shelf store.store.shelf (.get (Key.message target) (.ok envelope))) :
    Guarded id service due now count ⟨before.operations.set caller
      (.retrieval service target key (Retrieval.examine target key number envelope).1), store⟩ := by
  obtain ⟨found, tidied⟩ := effect.of_get
  refine guarded.tidied turn rfl calls rfl ?_ (quiet_examine service target key number envelope) tidied
  intro read
  cases envelope with
  | none => cases read
  | some text =>
    obtain rfl := Key.message_inj.mp (of_decide_eq_true read)
    cases live : before.store.store.shelf.live? now (Key.message target) with
    | none => rw [live] at found; cases found
    | some entry => exact ⟨rfl, decide_eq_true rfl⟩

/-- Any call, except one that stores the message again. -/
theorem Guarded.moved (guarded : Guarded id service due now count before)
    (turn : before.operations[caller]? = some operation) (moves : Moves operation next exchange)
    (effect : Effect now before.store.store.shelf store.store.shelf exchange)
    (calls : store.calls = ⟨now, before.store.store, exchange⟩ :: before.store.calls)
    (unstored : exchange.stores (Key.message id) = false) :
    ∃ count, Guarded id service due now count ⟨before.operations.set caller next, store⟩ := by
  have settings := moves.service_eq
  -- a call about another message leaves both entries alone; each call about this one has a lemma of its own
  have own := guarded.shared _ (List.mem_of_getElem? turn)
  cases moves with
  | stored other target envelope key =>
    have apart : target ≠ id := by
      rintro rfl
      simp [Exchange.stores] at unstored
    exact ⟨count, guarded.elsewhere turn settings calls effect.others (apart_message apart) rfl⟩
  | unstored other target envelope key fault =>
    exact ⟨count, guarded.failed turn settings calls rfl ⟨rfl, rfl⟩ effect⟩
  | counted other target key number =>
    by_cases same : target = id
    · subst same
      obtain rfl := own
      exact guarded.counted turn calls effect rfl
    · exact ⟨count, guarded.elsewhere turn settings calls effect.others (apart_attempts same) (decide_eq_false same)⟩
  | fetched other target key number envelope =>
    obtain rfl := own
    exact ⟨count, guarded.fetched turn calls effect⟩
  | discarded other target key removed | won other target key text | lost other target key text =>
    by_cases same : target = id
    · subst same
      obtain ⟨_, here, others⟩ := effect.of_delete
      exact ⟨count, guarded.gone turn settings calls here others⟩
    · exact ⟨count, guarded.elsewhere turn settings calls effect.others (apart_message same) (decide_eq_false same)⟩
  | cleared other target key text removed =>
    by_cases same : target = id
    · subst same
      obtain ⟨_, here, others⟩ := effect.of_delete
      exact ⟨count, guarded.cleared turn settings calls (decide_eq_true rfl) here others⟩
    · exact ⟨count, guarded.elsewhere turn settings calls effect.others (apart_attempts same) (decide_eq_false same)⟩
  | broken other target key stage fault failed about =>
    exact ⟨count, guarded.failed turn settings calls failed ⟨rfl, rfl⟩ effect⟩

end Calls

theorem Traffic.Change.guarded {event : Event ρ} {after : Traffic Backend}
    (change : Change Backend.shelf event before after) (guarded : Guarded id service due now count before)
    (order : now ≤ event.now) (settings : ∀ other ∈ event.turn.service?, other = service)
    (unstored : after.stored id = before.stored id) : ∃ count, Guarded id service due event.now count after := by
  have current := guarded.later order
  cases change with
  | idle => exact ⟨count, current⟩
  | begun operation asked => exact ⟨count, current.begun asked (settings _ (Turn.service?_of_begins? asked))⟩
  | called caller operation next store turn made =>
    obtain ⟨exchange, moves, effect, calls⟩ := made
    refine current.moved turn moves effect calls ?_
    cases again : exchange.stores (Key.message id) with
    | false => rfl
    | true =>
      simp only [stored, calls, List.countP_cons, again, if_true] at unstored
      omega

end Steps

end ReadOnce.Message
