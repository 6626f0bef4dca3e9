import ReadOnce.Proofs.Attempts

/-!
The budget of attempts over whole histories: what was so before the message was stored, the call that stored it, and
any turns of any callers after that.
-/
namespace ReadOnce.Message

open Store

variable {ρ : Type}

theorem Moves.unread {id : String} {operation next : Operation} {exchange : Exchange}
    (moves : Moves operation next exchange) (unasked : operation.retrieves id = false) :
    obtains (Key.message id) exchange = false := by
  cases moves with
  | fetched service other key number envelope =>
    cases envelope with
    | none => rfl
    | some text => exact decide_eq_false fun same => of_decide_eq_false unasked (Key.message_inj.mp same)
  | broken service other key stage fault failed about =>
    cases exchange <;> rename_i answer <;> cases answer <;> first | rfl | cases failed
  | _ => rfl

theorem Moves.uncounted {id : String} {operation next : Operation} {exchange : Exchange}
    (moves : Moves operation next exchange) (unasked : operation.retrieves id = false) :
    exchange.key ≠ Key.attempts id := by
  have other {target : String} (apart : decide (target = id) = false) : Key.attempts target ≠ Key.attempts id :=
    fun same => of_decide_eq_false apart (Key.attempts_inj.mp same)
  cases moves with
  | counted | cleared => exact other unasked
  | broken service target key stage fault failed about =>
    rcases about with message | counter
    · rw [message]
      exact Key.message_ne_attempts target id
    · rw [counter]
      exact other unasked
  | _ => exact Key.message_ne_attempts _ id

/-- What is so as long as nobody has begun to retrieve a message. -/
structure Unasked (id : String) (service : Service) (traffic : Traffic Backend) : Prop where
  shared : ∀ operation ∈ traffic.operations, operation.service = service
  unasked : ∀ operation ∈ traffic.operations, operation.retrieves id = false
  unread : traffic.obtained id = 0
  uncounted : traffic.attempts id = []

theorem Unasked.called {id : String} {service : Service} {before : Traffic Backend} {caller : Nat} {now : Instant}
    {operation next : Operation} {exchange : Exchange} {store : Recorded Backend} (quiet : Unasked id service before)
    (turn : before.operations[caller]? = some operation) (moves : Moves operation next exchange)
    (calls : store.calls = ⟨now, before.store.store, exchange⟩ :: before.store.calls) :
    Unasked id service ⟨before.operations.set caller next, store⟩ := by
  have member := List.mem_of_getElem? turn
  have other := quiet.unasked operation member
  refine ⟨?_, ?_, ?_, ?_⟩
  · intro later there
    rcases List.mem_or_eq_of_mem_set there with old | rfl
    · exact quiet.shared later old
    · exact moves.service_eq.trans (quiet.shared operation member)
  · intro later there
    rcases List.mem_or_eq_of_mem_set there with old | rfl
    · exact quiet.unasked later old
    · exact (moves.retrieves_eq id).trans other
  · simp only [Traffic.obtained, calls, List.countP_cons, moves.unread other]
    exact quiet.unread
  · simp only [Traffic.attempts, calls, List.filterMap_cons, attempt?_elsewhere (moves.uncounted other)]
    exact quiet.uncounted

theorem Traffic.Change.unasked {id : String} {service : Service} {event : Event ρ} {before after : Traffic Backend}
    (change : Change Backend.shelf event before after) (quiet : Unasked id service before)
    (settings : ∀ other ∈ event.turn.service?, other = service) (unasked : event.turn.retrieves id = false) :
    Unasked id service after := by
  cases change with
  | idle => exact quiet
  | begun operation asked =>
    have same := settings _ (Turn.service?_of_begins? asked)
    have other := (Turn.retrieves_of_begins? id asked).symm.trans unasked
    refine ⟨?_, ?_, quiet.unread, quiet.uncounted⟩
    · intro operation member
      rcases List.mem_append.mp member with old | new
      · exact quiet.shared operation old
      · exact List.mem_singleton.mp new ▸ same
    · intro operation member
      rcases List.mem_append.mp member with old | new
      · exact quiet.unasked operation old
      · exact List.mem_singleton.mp new ▸ other
  | called caller operation next store turn made =>
    obtain ⟨exchange, moves, effect, calls⟩ := made
    exact quiet.called turn moves calls

/-- What happened at a store, the event that put a message there, and what happened later. -/
structure History (ρ : Type) where
  store : Backend
  early : List (Event ρ)
  storing : Event ρ
  later : List (Event ρ)

namespace History

def before (history : History ρ) : Traffic Backend :=
  (Traffic.begin history.store).run Backend.interface history.early

def opened (history : History ρ) : Traffic Backend := history.before.step Backend.interface history.storing

def finish (history : History ρ) : Traffic Backend := history.opened.run Backend.interface history.later

/-- All follow the same settings, a message is stored once, where there is no count of its attempts, nobody has begun
to retrieve it before, and the clock is not set back afterwards. -/
structure StoresOnce (id : String) (service : Service) (history : History ρ) : Prop where
  settings : ∀ event ∈ history.early ++ history.storing :: history.later,
    ∀ other ∈ event.turn.service?, other = service
  unasked : ∀ event ∈ history.early, event.turn.retrieves id = false
  uncounted : history.before.store.store.shelf.find? (Key.attempts id) = none
  here : history.opened.stored id = history.before.stored id + 1
  once : history.finish.stored id = 1
  ordered : ((history.storing :: history.later).map Event.now).Pairwise (· ≤ ·)

end History

theorem Traffic.stored_le_run (id : String) (traffic : Traffic Backend) (events : List (Event ρ)) :
    traffic.stored id ≤ (traffic.run Backend.interface events).stored id := by
  refine @run_induction ρ _ _ _ Backend.lawful (fun later => traffic.stored id ≤ later.stored id) events traffic
    (Nat.le_refl _) ?_
  intro before after event _ less change
  cases change with
  | idle | begun => exact less
  | called caller operation next store turn made =>
    obtain ⟨exchange, _, _, calls⟩ := made
    simp only [stored, calls, List.countP_cons] at less ⊢
    omega

/-- Once it is stored a message is guarded, where no one has tried it. -/
theorem Unasked.stored {id envelope : String} {service : Service} {now : Instant} {caller : Nat} {next : Operation}
    {before : Traffic Backend} {store : Recorded Backend}
    (still : Unasked id service ⟨before.operations.set caller next, store⟩)
    (uncounted : before.store.store.shelf.find? (Key.attempts id) = none)
    (effect : Effect now before.store.store.shelf store.store.shelf
      (.put (Key.message id) envelope service.retention (.ok ()))) :
    ∃ due, Guarded id service due now 0 ⟨before.operations.set caller next, store⟩ := by
  obtain ⟨due, reached, stands, others⟩ := effect.of_put
  have counter := (others _ (Key.message_ne_attempts id id).symm).trans uncounted
  have idle (operation) (member : operation ∈ before.operations.set caller next) :=
    Operation.quiet_of_elsewhere (still.unasked operation member)
  -- nothing was read and no one is about to read, so everything that is counted is nought
  refine ⟨due, Int.le_of_eq (expiry_eq reached), still.shared, ?_, ?_, still.uncounted, ?_,
    fun _ => ⟨?_, ?_, ?_, ?_⟩⟩
  · intro entry found
    rw [stands] at found
    cases found
    rfl
  · intro entry found
    rw [counter] at found
    cases found
  · rw [still.unread]
    exact Nat.zero_le _
  · exact fun _ => counter
  · exact fun positive => absurd positive (Nat.lt_irrefl 0)
  · rw [still.unread, List.countP_eq_zero.mpr]
    · exact Nat.zero_le _
    · intro operation member
      simp [idle operation member]
  · rw [List.countP_eq_zero]
    intro operation member
    simp [idle operation member]

theorem Traffic.Change.opens {id : String} {service : Service} {event : Event ρ} {before after : Traffic Backend}
    (change : Change Backend.shelf event before after) (quiet : Unasked id service before)
    (uncounted : before.store.store.shelf.find? (Key.attempts id) = none)
    (here : after.stored id = before.stored id + 1) : ∃ due, Guarded id service due event.now 0 after := by
  cases change with
  | idle | begun => simp [stored] at here
  | called caller operation next store turn made =>
    obtain ⟨exchange, moves, effect, calls⟩ := made
    have put : exchange.stores (Key.message id) = true := by
      cases found : exchange.stores (Key.message id) with
      | true => rfl
      | false => simp [stored, calls, found] at here
    have settings := quiet.shared _ (List.mem_of_getElem? turn)
    have still := quiet.called turn moves calls
    cases moves with
    | stored own target envelope key =>
      obtain rfl := Key.message_inj.mp (of_decide_eq_true put)
      obtain rfl : own = service := settings
      exact still.stored uncounted effect
    | broken own target key stage fault failed about =>
      rw [Exchange.stores_eq_false (by rw [failed]; rfl)] at put
      cases put
    | _ => cases put

theorem Guarded.run {id : String} {service : Service} {due : Instant} (events : List (Event ρ)) {now : Instant}
    {count : Nat} {traffic : Traffic Backend} (guarded : Guarded id service due now count traffic)
    (ordered : (now :: events.map Event.now).Pairwise (· ≤ ·))
    (settings : ∀ event ∈ events, ∀ other ∈ event.turn.service?, other = service)
    (once : (traffic.run Backend.interface events).stored id = traffic.stored id) :
    ∃ time count, Guarded id service due time count (traffic.run Backend.interface events) := by
  induction events generalizing now count traffic with
  | nil => exact ⟨now, count, guarded⟩
  | cons event rest ih =>
    obtain ⟨least, tail⟩ := List.pairwise_cons.mp ordered
    have change := Traffic.step_change Backend.lawful traffic event
    have first := Traffic.stored_le_run id traffic [event]
    have second := Traffic.stored_le_run id (traffic.step Backend.interface event) rest
    have unstored : (traffic.step Backend.interface event).stored id = traffic.stored id :=
      Nat.le_antisymm (once ▸ second) first
    obtain ⟨count, next⟩ := change.guarded guarded (least _ List.mem_cons_self)
      (settings event List.mem_cons_self) unstored
    exact ih next tail (fun other member => settings other (List.mem_cons_of_mem _ member)) (once.trans unstored.symm)

/-- However the calls of all callers take turns and whichever of them fail: a count of attempts expires no earlier
than the envelope, the envelope is read at most as often as attempts are allowed, and while it is live no two attempts
have the same number, so that at most one is the first beyond the limit. -/
theorem attempts_within_budget {id : String} {service : Service} {history : History ρ}
    (single : history.StoresOnce id service) :
    (∀ envelope counter, history.finish.store.store.shelf.find? (Key.message id) = some envelope →
      history.finish.store.store.shelf.find? (Key.attempts id) = some counter →
      ∃ due forgotten, envelope.expires = some due ∧ counter.expires = some forgotten ∧ due ≤ forgotten) ∧
    history.finish.obtained id ≤ service.maxTries.toNat ∧ (history.finish.attempts id).Nodup ∧
    (history.finish.attempts id).count (service.maxTries + 1) ≤ 1 := by
  have settings (event : Event ρ) (member : event ∈ history.early) :=
    single.settings event (List.mem_append_left _ member)
  have start : Unasked id service (Traffic.begin history.store) :=
    ⟨List.forall_mem_nil _, List.forall_mem_nil _, rfl, rfl⟩
  -- no one asks for the message until it is stored, and from then on it is guarded
  have quiet : Unasked id service history.before :=
    Traffic.run_induction Backend.lawful history.early _ start fun _ _ event member unasked change =>
      change.unasked unasked (settings event member) (single.unasked event member)
  obtain ⟨due, opened⟩ : ∃ due, Guarded id service due history.storing.now 0 history.opened :=
    (Traffic.step_change Backend.lawful history.before history.storing).opens quiet single.uncounted single.here
  have grows := Traffic.stored_le_run id history.opened history.later
  have once : history.finish.stored id = history.opened.stored id := by
    have here := single.here
    have total := single.once
    rw [History.finish] at total ⊢
    omega
  obtain ⟨time, count, guarded⟩ : ∃ time count, Guarded id service due time count history.finish :=
    opened.run history.later single.ordered
      (fun event member => single.settings event (List.mem_append_right _ (List.mem_cons_of_mem _ member))) once
  have distinct : (history.finish.attempts id).Nodup := by
    rw [guarded.numbers]
    exact nodup_countdown count
  refine ⟨?_, guarded.spent, distinct, List.nodup_iff_count.mp distinct _⟩
  intro envelope counter there counted
  obtain ⟨forgotten, expires, order⟩ := guarded.counter counter counted
  exact ⟨due, forgotten, guarded.envelope envelope there, expires, order⟩

/-- Two callers, of whom one is allowed: both count before either goes on, and one call is lost. -/
def rivalry (service : Service) (id : String) : History Nat where
  store := .memory ⟨Shelf.empty⟩
  early := [⟨0, .create service ⟨fun length count => (.bytes (List.replicate length 0x0f), count + 1)⟩ 0 "text"⟩]
  storing := ⟨1, .call 0 none⟩
  later := [
    ⟨2, .retrieve service id (Base64.encode (List.replicate 32 0x0f))⟩,
    ⟨2, .retrieve service id (Base64.encode (List.replicate 32 0x0a))⟩,
    ⟨3, .call 1 none⟩, ⟨3, .call 2 none⟩, ⟨4, .call 1 (some "lost")⟩, ⟨5, .call 2 none⟩]

set_option maxRecDepth 4000 in
theorem attempts_within_budget_rivalry :
    let service : Service := ⟨Duration.day, 1, 100⟩
    let id := Id.ofBytes (List.replicate 16 0x0f)
    let history := rivalry service id
    history.StoresOnce id service ∧ history.finish.obtained id ≤ 1 ∧ (history.finish.attempts id).count 2 ≤ 1 := by
  intro service id history
  have single : history.StoresOnce id service :=
    ⟨by decide, by decide, by decide +kernel, by decide +kernel, by decide +kernel, by decide⟩
  obtain ⟨_, obtained, _, once⟩ := attempts_within_budget single
  exact ⟨single, obtained, once⟩

end ReadOnce.Message
