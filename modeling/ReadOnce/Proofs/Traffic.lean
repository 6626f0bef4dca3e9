import ReadOnce.Message.Service
import ReadOnce.Proofs.Store.Calls

/-!
Several callers at one store. Each operation makes its calls one at a time; between two of them any other caller
may take a turn, the clock may stand anywhere, and a call may fail before it reaches the store. Every call is
recorded with the answer and with what the store held when it was made.
-/
namespace ReadOnce.Store

/-- A call that was made to a store. -/
structure Call (σ : Type) where
  now : Instant
  before : σ
  exchange : Exchange

/-- A store with the calls made to it, the latest first. -/
structure Recorded (σ : Type) where
  store : σ
  calls : List (Call σ)

variable {σ : Type}

def Recorded.note (now : Instant) (exchange : Exchange) (next : σ) (state : Recorded σ) : Recorded σ :=
  ⟨next, ⟨now, state.store, exchange⟩ :: state.calls⟩

/-- A store that records the calls made to it. -/
def Recorded.interface (inner : KeyValueStore σ) : KeyValueStore (Recorded σ) where
  put now key value duration state :=
    let (answer, next) := inner.put now key value duration state.store
    (answer, state.note now (.put key value duration answer) next)
  get now key state :=
    let (answer, next) := inner.get now key state.store
    (answer, state.note now (.get key answer) next)
  delete now key state :=
    let (answer, next) := inner.delete now key state.store
    (answer, state.note now (.delete key answer) next)
  increment now key duration state :=
    let (answer, next) := inner.increment now key duration state.store
    (answer, state.note now (.increment key duration answer) next)

namespace Recorded

variable (inner : KeyValueStore σ) (now : Instant) (key : String) (state : Recorded σ)

theorem put_eq (value : String) (duration : Duration) :
    (interface inner).put now key value duration state =
      ((inner.put now key value duration state.store).1,
        state.note now (.put key value duration (inner.put now key value duration state.store).1)
          (inner.put now key value duration state.store).2) := rfl

theorem get_eq :
    (interface inner).get now key state =
      ((inner.get now key state.store).1,
        state.note now (.get key (inner.get now key state.store).1) (inner.get now key state.store).2) := rfl

theorem delete_eq :
    (interface inner).delete now key state =
      ((inner.delete now key state.store).1,
        state.note now (.delete key (inner.delete now key state.store).1) (inner.delete now key state.store).2) := rfl

theorem increment_eq (duration : Option Duration) :
    (interface inner).increment now key duration state =
      ((inner.increment now key duration state.store).1,
        state.note now (.increment key duration (inner.increment now key duration state.store).1)
          (inner.increment now key duration state.store).2) := rfl

end Recorded

/-- A store that no call gets to. -/
def KeyValueStore.down (reason : String) : KeyValueStore σ where
  put _ _ _ _ state := (.error (.unavailable reason), state)
  get _ _ state := (.error (.unavailable reason), state)
  delete _ _ state := (.error (.unavailable reason), state)
  increment _ _ _ state := (.error (.unavailable reason), state)

theorem KeyValueStore.down_lawful (reason : String) (shelf : σ → Shelf) : (down reason).Lawful shelf where
  put now key _ _ _ := .refused rfl (.refl now key _)
  get now key _ := .refused rfl (.refl now key _)
  delete now key _ := .refused rfl (.refl now key _)
  increment now key _ _ := .refused rfl (.refl now key _)

end ReadOnce.Store

namespace ReadOnce.Message

open Store

variable {ρ σ : Type}

/-- An operation of one caller, from its beginning to its end. -/
inductive Operation where
  | creation (service : Service) (stage : Creation)
  | retrieval (service : Service) (id : String) (key : Bytes) (stage : Retrieval)

namespace Operation

/-- An operation that creates a message, before its call to the store. -/
def create (service : Service) (source : RandomSource ρ) (dice : ρ) (text : String) : Operation :=
  .creation service (Creation.start service source text dice).result

/-- An operation that retrieves a message, before its first call to the store. -/
def retrieve (service : Service) (id key : String) : Operation :=
  match keyOf id key with
  | .error fault => .retrieval service id [] (.ended (.ok (.failure .badRequest fault.message)))
  | .ok bytes => .retrieval service id bytes .counting

/-- The next call of an operation to the store, if there is one left. -/
def step (store : KeyValueStore σ) (now : Instant) (state : σ) : Operation → Operation × σ
  | creation service stage =>
    let run := stage.step service store now state
    (.creation service run.result, run.state)
  | retrieval service id key stage =>
    let run := stage.step service store id key now state
    (.retrieval service id key run.result, run.state)

end Operation

/-- What an exchange with the store makes of an operation. -/
inductive Moves : Operation → Operation → Exchange → Prop where
  | stored (service : Service) (id envelope : String) (key : Bytes) :
      Moves (.creation service (.storing id envelope key))
        (.creation service (.ended (.ok (.success ⟨id, Base64.encode key⟩))))
        (.put (Key.message id) envelope service.retention (.ok ()))
  | unstored (service : Service) (id envelope : String) (key : Bytes) (fault : StoreFault) :
      Moves (.creation service (.storing id envelope key))
        (.creation service (.ended (afterFault "creating a message" fault).1))
        (.put (Key.message id) envelope service.retention (.error fault))
  | counted (service : Service) (id : String) (key : Bytes) (attempt : Int) :
      Moves (.retrieval service id key .counting)
        (.retrieval service id key (if service.maxTries < attempt then .discarding else .fetching attempt))
        (.increment (Key.attempts id) (some service.retention) (.ok attempt))
  | discarded (service : Service) (id : String) (key : Bytes) (removed : Bool) :
      Moves (.retrieval service id key .discarding) (.retrieval service id key (.ended (.ok .exhausted)))
        (.delete (Key.message id) (.ok removed))
  | fetched (service : Service) (id : String) (key : Bytes) (attempt : Int) (envelope : Option String) :
      Moves (.retrieval service id key (.fetching attempt))
        (.retrieval service id key (Retrieval.examine id key attempt envelope).1)
        (.get (Key.message id) (.ok envelope))
  | won (service : Service) (id : String) (key : Bytes) (text : String) :
      Moves (.retrieval service id key (.claiming text)) (.retrieval service id key (.clearing text))
        (.delete (Key.message id) (.ok true))
  | lost (service : Service) (id : String) (key : Bytes) (text : String) :
      Moves (.retrieval service id key (.claiming text))
        (.retrieval service id key (.ended (.ok (.failure .notFound ""))))
        (.delete (Key.message id) (.ok false))
  | cleared (service : Service) (id : String) (key : Bytes) (text : String) (removed : Bool) :
      Moves (.retrieval service id key (.clearing text)) (.retrieval service id key (.ended (.ok (.success text))))
        (.delete (Key.attempts id) (.ok removed))
  | broken (service : Service) (id : String) (key : Bytes) (stage : Retrieval) {exchange : Exchange}
      (fault : StoreFault) (failed : exchange.fault? = some fault)
      (about : exchange.key = Key.message id ∨ exchange.key = Key.attempts id) :
      Moves (.retrieval service id key stage)
        (.retrieval service id key (.ended (afterFault ("retrieving " ++ id) fault).1)) exchange

/-- One call was made, with what comes of it for the operation and for the store. -/
def Called (shelf : σ → Shelf) (now : Instant) (operation next : Operation) (before after : Recorded σ) : Prop :=
  ∃ exchange, Moves operation next exchange ∧ Effect now (shelf before.store) (shelf after.store) exchange ∧
    after.calls = ⟨now, before.store, exchange⟩ :: before.calls

namespace Operation

variable {inner : KeyValueStore σ} {shelf : σ → Shelf} (lawful : inner.Lawful shelf) (now : Instant)
  (state : Recorded σ) (service : Service) (id : String) (key : Bytes)

include lawful

theorem storing_called (envelope : String) :
    let operation : Operation := .creation service (.storing id envelope key)
    let run := operation.step (Recorded.interface inner) now state
    Called shelf now operation run.1 state run.2 := by
  have effect := lawful.put now (Key.message id) envelope service.retention state.store
  simp only [step, Creation.step, Recorded.interface]
  cases answer : (inner.put now (Key.message id) envelope service.retention state.store).1 with
  | ok _ =>
    rw [answer] at effect
    exact ⟨_, .stored service id envelope key, effect, rfl⟩
  | error fault =>
    rw [answer] at effect
    exact ⟨_, .unstored service id envelope key fault, effect, rfl⟩

theorem counting_called :
    let operation : Operation := .retrieval service id key .counting
    let run := operation.step (Recorded.interface inner) now state
    Called shelf now operation run.1 state run.2 := by
  have effect := lawful.increment now (Key.attempts id) (some service.retention) state.store
  simp only [step, Retrieval.step, Recorded.interface]
  cases answer : (inner.increment now (Key.attempts id) (some service.retention) state.store).1 with
  | ok attempt =>
    rw [answer] at effect
    exact ⟨_, .counted service id key attempt, effect, rfl⟩
  | error fault =>
    rw [answer] at effect
    exact ⟨_, .broken service id key .counting fault rfl (.inr rfl), effect, rfl⟩

theorem discarding_called :
    let operation : Operation := .retrieval service id key .discarding
    let run := operation.step (Recorded.interface inner) now state
    Called shelf now operation run.1 state run.2 := by
  have effect := lawful.delete now (Key.message id) state.store
  simp only [step, Retrieval.step, Recorded.interface]
  cases answer : (inner.delete now (Key.message id) state.store).1 with
  | ok removed =>
    rw [answer] at effect
    exact ⟨_, .discarded service id key removed, effect, rfl⟩
  | error fault =>
    rw [answer] at effect
    exact ⟨_, .broken service id key .discarding fault rfl (.inl rfl), effect, rfl⟩

theorem fetching_called (attempt : Int) :
    let operation : Operation := .retrieval service id key (.fetching attempt)
    let run := operation.step (Recorded.interface inner) now state
    Called shelf now operation run.1 state run.2 := by
  have effect := lawful.get now (Key.message id) state.store
  simp only [step, Retrieval.step, Recorded.interface]
  cases answer : (inner.get now (Key.message id) state.store).1 with
  | ok envelope =>
    rw [answer] at effect
    exact ⟨_, .fetched service id key attempt envelope, effect, rfl⟩
  | error fault =>
    rw [answer] at effect
    exact ⟨_, .broken service id key (.fetching attempt) fault rfl (.inl rfl), effect, rfl⟩

theorem claiming_called (text : String) :
    let operation : Operation := .retrieval service id key (.claiming text)
    let run := operation.step (Recorded.interface inner) now state
    Called shelf now operation run.1 state run.2 := by
  have effect := lawful.delete now (Key.message id) state.store
  simp only [step, Retrieval.step, Recorded.interface]
  cases answer : (inner.delete now (Key.message id) state.store).1 with
  | ok removed =>
    rw [answer] at effect
    cases removed with
    | true => exact ⟨_, .won service id key text, effect, rfl⟩
    | false => exact ⟨_, .lost service id key text, effect, rfl⟩
  | error fault =>
    rw [answer] at effect
    exact ⟨_, .broken service id key (.claiming text) fault rfl (.inl rfl), effect, rfl⟩

theorem clearing_called (text : String) :
    let operation : Operation := .retrieval service id key (.clearing text)
    let run := operation.step (Recorded.interface inner) now state
    Called shelf now operation run.1 state run.2 := by
  have effect := lawful.delete now (Key.attempts id) state.store
  simp only [step, Retrieval.step, Recorded.interface]
  cases answer : (inner.delete now (Key.attempts id) state.store).1 with
  | ok removed =>
    rw [answer] at effect
    exact ⟨_, .cleared service id key text removed, effect, rfl⟩
  | error fault =>
    rw [answer] at effect
    exact ⟨_, .broken service id key (.clearing text) fault rfl (.inr rfl), effect, rfl⟩

/-- All that a step of an operation can do. -/
theorem step_called (operation : Operation) :
    operation.step (Recorded.interface inner) now state = (operation, state) ∨
      Called shelf now operation (operation.step (Recorded.interface inner) now state).1 state
        (operation.step (Recorded.interface inner) now state).2 := by
  cases operation with
  | creation service stage =>
    cases stage with
    | ended result => exact .inl rfl
    | storing id envelope key => exact .inr (storing_called lawful now state service id key envelope)
  | retrieval service id key stage =>
    cases stage with
    | ended result => exact .inl rfl
    | counting => exact .inr (counting_called lawful now state service id key)
    | discarding => exact .inr (discarding_called lawful now state service id key)
    | fetching attempt => exact .inr (fetching_called lawful now state service id key attempt)
    | claiming text => exact .inr (claiming_called lawful now state service id key text)
    | clearing text => exact .inr (clearing_called lawful now state service id key text)

end Operation

theorem Operation.step_recorded (inner : KeyValueStore σ) (now : Instant) (state : Recorded σ)
    (operation : Operation) :
    operation.step inner now state.store =
      ((operation.step (Recorded.interface inner) now state).1,
        (operation.step (Recorded.interface inner) now state).2.store) := by
  cases operation with
  | creation service stage =>
    cases stage with
    | ended result => rfl
    | storing id envelope key =>
      simp only [step, Creation.step]
      rw [Recorded.put_eq]
      rcases inner.put now (Key.message id) envelope service.retention state.store with ⟨_ | _, _⟩ <;> rfl
  | retrieval service id key stage =>
    cases stage with
    | ended result => rfl
    | counting =>
      simp only [step, Retrieval.step]
      rw [Recorded.increment_eq]
      rcases inner.increment now (Key.attempts id) (some service.retention) state.store with ⟨_ | _, _⟩ <;> rfl
    | fetching attempt =>
      simp only [step, Retrieval.step]
      rw [Recorded.get_eq]
      rcases inner.get now (Key.message id) state.store with ⟨_ | _, _⟩ <;> rfl
    | discarding =>
      simp only [step, Retrieval.step]
      rw [Recorded.delete_eq]
      rcases inner.delete now (Key.message id) state.store with ⟨_ | _, _⟩ <;> rfl
    | claiming text =>
      simp only [step, Retrieval.step]
      rw [Recorded.delete_eq]
      rcases inner.delete now (Key.message id) state.store with ⟨_ | _ | _, _⟩ <;> rfl
    | clearing text =>
      simp only [step, Retrieval.step]
      rw [Recorded.delete_eq]
      rcases inner.delete now (Key.attempts id) state.store with ⟨_ | _, _⟩ <;> rfl

/-- All that a step of an operation can do, where nothing is recorded. -/
theorem Operation.step_moves {inner : KeyValueStore σ} {shelf : σ → Shelf} (lawful : inner.Lawful shelf)
    (now : Instant) (state : σ) (operation : Operation) :
    operation.step inner now state = (operation, state) ∨
      ∃ exchange, Moves operation (operation.step inner now state).1 exchange ∧
        Effect now (shelf state) (shelf (operation.step inner now state).2) exchange := by
  have plain := operation.step_recorded inner now ⟨state, []⟩
  rcases operation.step_called lawful now ⟨state, []⟩ with ended | ⟨exchange, moves, effect, _⟩
  · left
    rw [plain, ended]
  · right
    rw [plain]
    exact ⟨exchange, moves, effect⟩

/-- What happens next: an operation is begun, or a caller makes the next call, which may fail on the way. -/
inductive Turn (ρ : Type) where
  | create (service : Service) (source : RandomSource ρ) (dice : ρ) (text : String)
  | retrieve (service : Service) (id key : String)
  | call (caller : Nat) (failure : Option String)

/-- The operation that a turn begins. -/
def Turn.begins? : Turn ρ → Option Operation
  | create service source dice text => some (.create service source dice text)
  | retrieve service id key => some (.retrieve service id key)
  | call _ _ => none

structure Event (ρ : Type) where
  now : Instant
  turn : Turn ρ

/-- The operations of all callers, in the order in which they began, and the store they share. -/
structure Traffic (σ : Type) where
  operations : List Operation
  store : Recorded σ

namespace Traffic

def begin (store : σ) : Traffic σ := ⟨[], ⟨store, []⟩⟩

/-- The store as a call finds it. -/
def reached (inner : KeyValueStore σ) : (failure : Option String) → KeyValueStore σ
  | none => inner
  | some reason => .down reason

def step (inner : KeyValueStore σ) (traffic : Traffic σ) (event : Event ρ) : Traffic σ :=
  match event.turn with
  | .create service source dice text =>
    { traffic with operations := traffic.operations ++ [.create service source dice text] }
  | .retrieve service id key =>
    { traffic with operations := traffic.operations ++ [.retrieve service id key] }
  | .call caller failure =>
    match traffic.operations[caller]? with
    | none => traffic
    | some operation =>
      let (next, store) := operation.step (Recorded.interface (reached inner failure)) event.now traffic.store
      ⟨traffic.operations.set caller next, store⟩

def run (inner : KeyValueStore σ) (traffic : Traffic σ) (events : List (Event ρ)) : Traffic σ :=
  events.foldl (step inner) traffic

theorem countP_cons_toNat {α : Type} (test : α → Bool) (first : α) (rest : List α) :
    (first :: rest).countP test = rest.countP test + (test first).toNat := by
  rw [List.countP_cons]
  cases test first <;> rfl

/-- How a count over the operations changes when one of them moves on. -/
theorem countP_set_toNat (test : Operation → Bool) {operations : List Operation} {caller : Nat}
    {operation : Operation} (next : Operation) (turn : operations[caller]? = some operation) :
    (operations.set caller next).countP test + (test operation).toNat =
      operations.countP test + (test next).toNat := by
  obtain ⟨inside, same⟩ := List.getElem?_eq_some_iff.mp turn
  have counted : test operation = true → 0 < operations.countP test := fun passed =>
    List.countP_pos_iff.mpr ⟨operation, same ▸ List.getElem_mem inside, passed⟩
  rw [List.countP_set inside, same]
  cases before : test operation with
  | false => cases test next <;> simp
  | true =>
    have positive := counted before
    cases test next <;> simp only [if_true, Bool.toNat_true, Bool.toNat_false, Bool.false_eq_true, if_false] <;> omega

/-- All that one event can do. -/
inductive Change (shelf : σ → Shelf) (event : Event ρ) (before : Traffic σ) : Traffic σ → Prop where
  | idle : Change shelf event before before
  | begun (operation : Operation) (asked : event.turn.begins? = some operation) :
      Change shelf event before ⟨before.operations ++ [operation], before.store⟩
  | called (caller : Nat) (operation next : Operation) (store : Recorded σ)
      (turn : before.operations[caller]? = some operation)
      (made : Called shelf event.now operation next before.store store) :
      Change shelf event before ⟨before.operations.set caller next, store⟩

theorem step_change {inner : KeyValueStore σ} {shelf : σ → Shelf} (lawful : inner.Lawful shelf)
    (traffic : Traffic σ) (event : Event ρ) : Change shelf event traffic (traffic.step inner event) := by
  obtain ⟨now, turn⟩ := event
  cases turn with
  | create service source dice text => exact .begun (.create service source dice text) rfl
  | retrieve service id key => exact .begun (.retrieve service id key) rfl
  | call caller failure =>
    have reachedLawful : (reached inner failure).Lawful shelf := by
      cases failure with
      | none => exact lawful
      | some reason => exact KeyValueStore.down_lawful reason shelf
    simp only [step]
    cases turn : traffic.operations[caller]? with
    | none => exact .idle
    | some operation =>
      rcases operation.step_called reachedLawful now traffic.store with ended | made
      · simp only [ended]
        obtain ⟨inside, same⟩ := List.getElem?_eq_some_iff.mp turn
        rw [← same, List.set_getElem_self]
        exact .idle
      · exact .called caller operation _ _ turn made

theorem run_induction {inner : KeyValueStore σ} {shelf : σ → Shelf} (lawful : inner.Lawful shelf)
    {holds : Traffic σ → Prop} (events : List (Event ρ)) (traffic : Traffic σ) (start : holds traffic)
    (kept : ∀ before after, ∀ event ∈ events, holds before → Change shelf event before after → holds after) :
    holds (traffic.run inner events) := by
  induction events generalizing traffic with
  | nil => exact start
  | cons event rest ih =>
    have first := kept traffic _ event List.mem_cons_self start (step_change lawful traffic event)
    exact ih _ first fun before after other member => kept before after other (List.mem_cons_of_mem _ member)

end Traffic
end ReadOnce.Message
