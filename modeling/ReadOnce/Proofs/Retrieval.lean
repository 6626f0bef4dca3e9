import ReadOnce.Proofs.Lifecycle
import ReadOnce.Proofs.Store.Agreement
import ReadOnce.Proofs.Store.Interruption

/-!
What the end of a retrieval tells of the store, whichever of its calls fail on the way. The count goes up first, and
the envelope is removed before the count is: between its calls a retrieval has done one of a few things to the store,
and each of its ends follows from one of them.
-/
namespace ReadOnce.Message

open Store

variable {σ : Type}

namespace Retrieval

variable {service : Service} {store : KeyValueStore σ} {id : String} {key : Bytes} {now : Instant}

theorem remaining_step (stage : Retrieval) (state : σ) :
    (step service store id key now stage state).result.remaining ≤ stage.remaining - 1 := by
  cases stage with
  | counting =>
    simp only [step]
    rcases store.increment now (Key.attempts id) (some service.retention) state with ⟨fault | attempt, next⟩
    · exact Nat.zero_le _
    · dsimp only
      split
      · exact Nat.le_of_ble_eq_true rfl
      · exact Nat.le_refl _
  | discarding =>
    simp only [step]
    rcases store.delete now (Key.message id) state with ⟨_ | _, next⟩ <;> exact Nat.zero_le _
  | fetching attempt =>
    simp only [step]
    rcases store.get now (Key.message id) state with ⟨fault | _ | envelope, next⟩
    · exact Nat.zero_le _
    · exact Nat.zero_le _
    · simp only [examine]
      cases reveal? envelope key with
      | none => exact Nat.zero_le _
      | some text => exact Nat.le_refl _
  | claiming text =>
    simp only [step]
    rcases store.delete now (Key.message id) state with ⟨_ | _ | _, next⟩
    · exact Nat.zero_le _
    · exact Nat.zero_le _
    · exact Nat.le_refl _
  | clearing text =>
    simp only [step]
    rcases store.delete now (Key.attempts id) state with ⟨_ | _, next⟩ <;> exact Nat.zero_le _
  | ended result => exact Nat.le_refl _

theorem steps_ended (count : Nat) {stage : Retrieval} (enough : stage.remaining ≤ count) (state : σ) :
    ∃ result, (steps service store id key now count stage state).result = .ended result := by
  induction count generalizing stage state with
  | zero =>
    cases stage with
    | ended result => exact ⟨result, rfl⟩
    | _ => exact absurd enough (Nat.not_succ_le_zero _)
  | succ count ih =>
    have less := @remaining_step σ service store id key now stage state
    exact ih (Nat.le_trans less (Nat.sub_le_of_le_add enough)) _

end Retrieval

/-- How often a message counts as tried: as often as its counter says, and not at all without a live one. -/
def Tried (now : Instant) (id : String) (count : Int) (shelf : Shelf) : Prop :=
  match shelf.live? now (Key.attempts id) with
  | none => count = 0
  | some entry => Text.Numeral.parse entry.value = .ok count

/-- How many digits a count may have for an attempt to be counted without fail. -/
def countDigits : Nat := 4000

/-- A retrieval of a message that was tried so many times before, by what the store held when it began and by which of
its calls fail on the way. -/
structure Visit where
  service : Service
  now : Instant
  id : String
  key : Bytes
  count : Int
  before : Shelf
  plan : List (Option String)

namespace Visit

/-- The attempt can be counted: the calendar has the time when a counter begun now expires, which lies ahead, and the
count so far does not have too many digits. -/
structure Sound (visit : Visit) : Prop where
  allowed : 1 ≤ visit.service.maxTries
  lasting : 0 < visit.service.retention
  reached : (visit.now.after? visit.service.retention).isSome
  tried : Tried visit.now visit.id visit.count visit.before
  short : visit.count.natAbs < Nat.pow 10 countDigits

/-- The counter with one more attempt on it: it expires when it did before, or after the retention where there was
none. -/
def raised (visit : Visit) : Entry where
  value := toString (visit.count + 1)
  expires :=
    match visit.before.live? visit.now (Key.attempts visit.id) with
    | none => some (visit.now + visit.service.retention)
    | some entry => entry.expires

/-- Nothing but the envelope and the counter of the message was touched. -/
def Elsewhere (visit : Visit) (after : Shelf) : Prop :=
  ∀ key, key ≠ Key.message visit.id → key ≠ Key.attempts visit.id → after.find? key = visit.before.find? key

/-- The counter has gone up by one. -/
def Raised (visit : Visit) (after : Shelf) : Prop :=
  after.live? visit.now (Key.attempts visit.id) = some visit.raised

/-- The counter has gone up by one, and nothing else that is live has changed. -/
structure Counted (visit : Visit) (after : Shelf) : Prop where
  counter : visit.Raised after
  others : ∀ key, key ≠ Key.attempts visit.id → after.live? visit.now key = visit.before.live? visit.now key

/-- A live envelope was there, which the key opens to a text, and the attempt was within the limit. -/
def Opened (visit : Visit) (text : String) : Prop :=
  visit.count + 1 ≤ visit.service.maxTries ∧
    ∃ envelope, visit.before.live? visit.now (Key.message visit.id) = some envelope ∧
      Retrieval.reveal? envelope.value visit.key = some text

/-- What an outcome tells of the message before and after. -/
def Tells (visit : Visit) (after : Shelf) : Outcome String → Prop
  | .success text =>
    visit.Opened text ∧ after.find? (Key.message visit.id) = none ∧ after.find? (Key.attempts visit.id) = none
  | .exhausted =>
    visit.service.maxTries < visit.count + 1 ∧ after.find? (Key.message visit.id) = none ∧
      ∃ counter, visit.before.live? visit.now (Key.attempts visit.id) = some counter ∧
        after.live? visit.now (Key.attempts visit.id) = some { counter with value := toString (visit.count + 1) }
  | .failure .badKeyOrCorruption _ =>
    visit.Raised after ∧
      ∃ envelope, visit.before.live? visit.now (Key.message visit.id) = some envelope ∧
        Retrieval.reveal? envelope.value visit.key = none ∧ after.find? (Key.message visit.id) = some envelope
  | .failure .notFound _ =>
    visit.Raised after ∧ visit.before.live? visit.now (Key.message visit.id) = none ∧
      after.live? visit.now (Key.message visit.id) = none
  | .failure .storeUnavailable _ =>
    Alike visit.now visit.before after ∨
      (FailsFirst visit.plan 1 ∨ FailsFirst visit.plan 2) ∧ visit.Counted after ∨
      -- the last of four calls would have removed the counter after the envelope
      FailsFirst visit.plan 3 ∧ (∃ text, visit.Opened text) ∧ after.find? (Key.message visit.id) = none ∧
        visit.Raised after
  | .failure _ _ => False

/-- So many calls were made and none of them failed; a store that was asked is in reach. -/
structure Made (visit : Visit) (calls : Nat) (state : Interrupted Backend) : Prop where
  plan : state.plan = visit.plan.drop calls
  spared : ∀ place, place < calls → ∀ reason, visit.plan[place]? ≠ some (some reason)
  steady : calls ≠ 0 → state.store.Steady

/-- What a retrieval has done to the store when it makes a certain call next. -/
def Reached (visit : Visit) (state : Interrupted Backend) : Retrieval → Prop
  | .counting => visit.Made 0 state ∧ Alike visit.now visit.before state.store.shelf
  | .discarding =>
    visit.Made 1 state ∧ visit.service.maxTries < visit.count + 1 ∧ visit.Counted state.store.shelf
  | .fetching attempt =>
    visit.Made 1 state ∧ attempt = visit.count + 1 ∧ visit.count + 1 ≤ visit.service.maxTries ∧
      visit.Counted state.store.shelf
  | .claiming text => visit.Made 2 state ∧ visit.Opened text ∧ visit.Counted state.store.shelf
  | .clearing text =>
    visit.Made 3 state ∧ visit.Opened text ∧ state.store.shelf.find? (Key.message visit.id) = none ∧
      visit.Raised state.store.shelf
  | .ended result => ∃ outcome, result = .ok outcome ∧ visit.Tells state.store.shelf outcome

/-- The next call of a retrieval. -/
def call (visit : Visit) (stage : Retrieval) (state : Interrupted Backend) : Run (Interrupted Backend) Retrieval :=
  stage.step visit.service (Interrupted.interface Backend.interface) visit.id visit.key visit.now state

namespace Sound

variable {visit : Visit}

private theorem pow_ten_lt {few many : Nat} (fewer : few < many) : Nat.pow 10 few < Nat.pow 10 many :=
  Nat.pow_lt_pow_right (by decide) fewer

/-- The next count can be written. -/
theorem room (sound : visit.Sound) : (visit.count + 1).natAbs < Text.numeralLimit := by
  have wider : Nat.pow 10 countDigits < Text.numeralLimit := by
    unfold Text.numeralLimit
    exact @pow_ten_lt countDigits Text.digitLimit (by decide)
  calc
    (visit.count + 1).natAbs ≤ visit.count.natAbs + 1 := Int.natAbs_add_le visit.count 1
    _ ≤ Nat.pow 10 countDigits := sound.short
    _ < Text.numeralLimit := wider

theorem nextCount (sound : visit.Sound) {entry : Entry}
    (live : visit.before.live? visit.now (Key.attempts visit.id) = some entry) :
    nextCount entry.value = .ok (visit.count + 1, toString (visit.count + 1)) := by
  have read := sound.tried
  simp only [Tried, live] at read
  simp only [Store.nextCount, read, Text.Numeral.write, if_pos sound.room]

theorem countable (sound : visit.Sound) {after : Shelf} (alike : Alike visit.now visit.before after) :
    Countable visit.now (Key.attempts visit.id) after := by
  intro entry live
  exact ⟨_, sound.nextCount ((alike _).trans live)⟩

theorem counted (sound : visit.Sound) {middle after : Shelf} {attempt : Int}
    (alike : Alike visit.now visit.before middle)
    (effect : Effect visit.now middle after
      (.increment (Key.attempts visit.id) (some visit.service.retention) (.ok attempt))) :
    attempt = visit.count + 1 ∧ visit.Counted after := by
  have others (key : String) (apart : key ≠ Key.attempts visit.id) :
      after.live? visit.now key = visit.before.live? visit.now key := by
    rw [alike key, Shelf.live?, effect.others key apart, Shelf.live?]
  rcases effect.of_increment with ⟨absent, first, expires, due, here⟩ | ⟨entry, value, live, next, here⟩
  · -- a counter is begun
    rw [← alike] at absent
    have zero := sound.tried
    simp only [Tried, absent] at zero
    refine ⟨by omega, ?_, others⟩
    have ahead : visit.now < visit.now + visit.service.retention := Int.lt_add_of_pos_right _ sound.lasting
    rw [counterExpiry_eq due] at here
    simp only [Visit.Raised, Visit.raised, absent, zero]
    exact Shelf.live?_eq_some.mpr ⟨here, decide_eq_true ahead⟩
  · -- a counter is counted on from
    rw [← alike] at live
    rw [sound.nextCount live] at next
    cases next
    refine ⟨rfl, ?_, others⟩
    simp only [Visit.Raised, Visit.raised, live]
    exact Shelf.live?_eq_some.mpr ⟨here, (Shelf.live?_eq_some.mp live).2⟩

end Sound

section Calls

variable {visit : Visit} {state : Interrupted Backend} {calls : Nat}

theorem Made.attempt {α : Type} (made : visit.Made calls state) (act : Backend → Except StoreFault α × Backend) :
    (FailsFirst visit.plan calls ∧ ∃ reason,
        Interrupted.attempt act state = (.error (.unavailable reason), ⟨state.store, state.plan.tail⟩)) ∨
      Interrupted.attempt act state = ((act state.store).1, ⟨(act state.store).2, state.plan.tail⟩) ∧
        ((act state.store).2.Steady → visit.Made (calls + 1) ⟨(act state.store).2, state.plan.tail⟩) := by
  rcases Interrupted.attempt_cases act state with ⟨reason, planned, failed⟩ | ⟨spared, done⟩
  · rw [made.plan, List.head?_drop] at planned
    exact .inl ⟨⟨⟨reason, planned⟩, made.spared⟩, reason, failed⟩
  · rw [made.plan, List.head?_drop] at spared
    refine .inr ⟨done, fun steady => ⟨?_, fun place early => ?_, fun _ => steady⟩⟩
    · rw [made.plan, List.tail_drop]
    · rcases Nat.lt_succ_iff_lt_or_eq.mp early with earlier | rfl
      · exact made.spared place earlier
      · exact spared

/-- The first call counts the attempt, or nothing has happened. -/
theorem Made.increment (sound : visit.Sound) (made : visit.Made 0 state)
    (alike : Alike visit.now visit.before state.store.shelf) :
    let run := (Interrupted.interface Backend.interface).increment visit.now (Key.attempts visit.id)
      (some visit.service.retention) state
    (∃ reason next, run = (.error (.unavailable reason), next) ∧ Alike visit.now visit.before next.store.shelf) ∨
      ∃ next, run = (.ok (visit.count + 1), next) ∧ visit.Made 1 next ∧ visit.Counted next.store.shelf := by
  intro run
  rcases made.attempt (Backend.interface.increment visit.now (Key.attempts visit.id) (some visit.service.retention))
    with ⟨_, reason, failed⟩ | ⟨done, later⟩
  · exact .inl ⟨reason, _, failed, alike⟩
  · have effect :=
      Backend.lawful.increment visit.now (Key.attempts visit.id) (some visit.service.retention) state.store
    have same : run = _ := done
    cases answer : (Backend.interface.increment visit.now (Key.attempts visit.id) (some visit.service.retention)
        state.store).1 with
    | error fault =>
      -- a table may be out of reach whatever is planned
      obtain ⟨reason, rfl⟩ :=
        Backend.plain.increment (counterExpiry_of_after? sound.reached) (sound.countable alike) answer
      rw [answer] at same effect
      have tidied := effect.of_fault rfl
      exact .inl ⟨reason, _, same, fun key => (alike key).trans (tidied.live?_eq key).symm⟩
    | ok attempt =>
      have steady := Backend.steady_of_counted answer
      rw [answer] at same effect
      obtain ⟨rfl, counted⟩ := sound.counted alike effect
      exact .inr ⟨_, same, later steady, counted⟩

theorem Made.get (made : visit.Made (calls + 1) state) (key : String) :
    let run := (Interrupted.interface Backend.interface).get visit.now key state
    (FailsFirst visit.plan (calls + 1) ∧
        ∃ reason next, run = (.error (.unavailable reason), next) ∧ next.store = state.store) ∨
      ∃ next, run = (.ok ((state.store.shelf.live? visit.now key).map (·.value)), next) ∧
        visit.Made (calls + 2) next ∧ Tidied visit.now key state.store.shelf next.store.shelf := by
  intro run
  rcases made.attempt (Backend.interface.get visit.now key) with ⟨first, reason, failed⟩ | ⟨done, later⟩
  · exact .inl ⟨first, reason, _, failed, rfl⟩
  · obtain ⟨next, answer, steady, tidied⟩ :=
      Backend.working.read Backend.lawful (made.steady (Nat.succ_ne_zero _)) visit.now key
    have same : run = _ := done
    rw [answer] at same later
    exact .inr ⟨_, same, later steady, tidied⟩

theorem Made.delete (made : visit.Made (calls + 1) state) (key : String) :
    let run := (Interrupted.interface Backend.interface).delete visit.now key state
    (FailsFirst visit.plan (calls + 1) ∧
        ∃ reason next, run = (.error (.unavailable reason), next) ∧ next.store = state.store) ∨
      ∃ next, run = (.ok (state.store.shelf.live? visit.now key).isSome, next) ∧ visit.Made (calls + 2) next ∧
        next.store.shelf.find? key = none ∧ SameBut key state.store.shelf next.store.shelf := by
  intro run
  rcases made.attempt (Backend.interface.delete visit.now key) with ⟨first, reason, failed⟩ | ⟨done, later⟩
  · exact .inl ⟨first, reason, _, failed, rfl⟩
  · obtain ⟨next, answer, steady, gone, others⟩ :=
      Backend.working.remove Backend.lawful (made.steady (Nat.succ_ne_zero _)) visit.now key
    have same : run = _ := done
    rw [answer] at same later
    exact .inr ⟨_, same, later steady, gone, others⟩

end Calls

section Steps

variable {visit : Visit} {state : Interrupted Backend} {attempt : Int} {text : String}

private theorem Tells.fail {next : Interrupted Backend} (reason : String)
    (stands : visit.Tells next.store.shelf (.failure .storeUnavailable "")) :
    visit.Reached next (Retrieval.fail visit.id (.unavailable reason) next).result :=
  ⟨_, rfl, stands⟩

private theorem find?_of_tidied {now : Instant} {key : String} {before after : Shelf} {entry : Entry}
    (tidied : Tidied now key before after) (live : before.live? now key = some entry) :
    after.find? key = some entry := by
  rw [← tidied.live?_eq] at live
  exact (Shelf.live?_eq_some.mp live).1

private theorem Counted.tidied {key : String} {middle after : Shelf} (counted : visit.Counted middle)
    (tidied : Tidied visit.now key middle after) : visit.Counted after :=
  ⟨(tidied.live?_eq _).trans counted.counter, fun other apart =>
    (tidied.live?_eq other).trans (counted.others other apart)⟩

private theorem Raised.removed {middle after : Shelf} (raised : visit.Raised middle)
    (others : SameBut (Key.message visit.id) middle after) : visit.Raised after := by
  have same := others _ (Key.message_ne_attempts visit.id visit.id).symm
  rw [Visit.Raised, Shelf.live?, same]
  exact raised

private theorem Counted.message {after : Shelf} (counted : visit.Counted after) :
    after.live? visit.now (Key.message visit.id) = visit.before.live? visit.now (Key.message visit.id) :=
  counted.others _ (Key.message_ne_attempts visit.id visit.id)

theorem Reached.counting (sound : visit.Sound) (reached : visit.Reached state .counting) :
    visit.Reached (visit.call .counting state).state (visit.call .counting state).result := by
  obtain ⟨made, alike⟩ := reached
  simp only [call, Retrieval.step]
  rcases made.increment sound alike with ⟨reason, next, failed, still⟩ | ⟨next, done, later, counted⟩
  · rw [failed]
    exact Tells.fail reason (.inl still)
  · rw [done]
    dsimp only
    split
    · next beyond => exact ⟨later, beyond, counted⟩
    · next within => exact ⟨later, rfl, Int.not_lt.mp within, counted⟩

theorem Reached.discarding (sound : visit.Sound) (reached : visit.Reached state .discarding) :
    visit.Reached (visit.call .discarding state).state (visit.call .discarding state).result := by
  obtain ⟨made, beyond, counted⟩ := reached
  simp only [call, Retrieval.step]
  rcases made.delete (Key.message visit.id) with ⟨first, reason, next, failed, same⟩ | ⟨next, done, _, gone, others⟩
  · rw [failed]
    exact Tells.fail reason (.inr (.inl ⟨.inl first, same ▸ counted⟩))
  · rw [done]
    have raised := Raised.removed counted.counter others
    refine ⟨.exhausted, rfl, beyond, gone, ?_⟩
    -- the first attempt is always within the limit, so there was a counter before
    cases live : visit.before.live? visit.now (Key.attempts visit.id) with
    | none =>
      have zero := sound.tried
      have allowed := sound.allowed
      simp only [Tried, live] at zero
      omega
    | some counter =>
      simp only [Visit.Raised, Visit.raised, live] at raised
      exact ⟨counter, rfl, raised⟩

theorem Reached.fetching (reached : visit.Reached state (.fetching attempt)) :
    visit.Reached (visit.call (.fetching attempt) state).state (visit.call (.fetching attempt) state).result := by
  obtain ⟨made, rfl, within, counted⟩ := reached
  simp only [call, Retrieval.step]
  rcases made.get (Key.message visit.id) with ⟨first, reason, next, failed, same⟩ | ⟨next, done, made, tidied⟩
  · rw [failed]
    exact Tells.fail reason (.inr (.inl ⟨.inl first, same ▸ counted⟩))
  · have later := counted.tidied tidied
    rw [done, counted.message]
    cases live : visit.before.live? visit.now (Key.message visit.id) with
    | none => exact ⟨_, rfl, later.counter, live, later.message.trans live⟩
    | some entry =>
      simp only [Option.map_some, Retrieval.examine]
      cases opens : Retrieval.reveal? entry.value visit.key with
      | none =>
        have there := find?_of_tidied tidied (counted.message.trans live)
        exact ⟨_, rfl, later.counter, entry, live, opens, there⟩
      | some text => exact ⟨made, ⟨within, entry, live, opens⟩, later⟩

theorem Reached.claiming (reached : visit.Reached state (.claiming text)) :
    visit.Reached (visit.call (.claiming text) state).state (visit.call (.claiming text) state).result := by
  obtain ⟨made, opened, counted⟩ := reached
  simp only [call, Retrieval.step]
  rcases made.delete (Key.message visit.id) with
    ⟨first, reason, next, failed, same⟩ | ⟨next, done, later, gone, others⟩
  · rw [failed]
    exact Tells.fail reason (.inr (.inl ⟨.inr first, same ▸ counted⟩))
  · obtain ⟨envelope, live, _⟩ := opened.2
    rw [done, counted.message, live]
    exact ⟨later, opened, gone, Raised.removed counted.counter others⟩

theorem Reached.clearing (reached : visit.Reached state (.clearing text)) :
    visit.Reached (visit.call (.clearing text) state).state (visit.call (.clearing text) state).result := by
  obtain ⟨made, opened, gone, raised⟩ := reached
  simp only [call, Retrieval.step]
  rcases made.delete (Key.attempts visit.id) with
    ⟨first, reason, next, failed, same⟩ | ⟨next, done, _, cleared, others⟩
  · rw [failed]
    exact Tells.fail reason (.inr (.inr ⟨first, ⟨text, opened⟩, same ▸ gone, same ▸ raised⟩))
  · rw [done]
    have apart := Key.message_ne_attempts visit.id visit.id
    exact ⟨.success text, rfl, opened, (others _ apart).trans gone, cleared⟩

/-- What every call of a retrieval does, and what it does where it fails. -/
theorem Reached.step (sound : visit.Sound) {stage : Retrieval} (reached : visit.Reached state stage) :
    visit.Reached (visit.call stage state).state (visit.call stage state).result := by
  cases stage with
  | counting => exact reached.counting sound
  | discarding => exact reached.discarding sound
  | fetching attempt => exact reached.fetching
  | claiming text => exact reached.claiming
  | clearing text => exact reached.clearing
  | ended result => exact reached

theorem Elsewhere.step {stage : Retrieval} (elsewhere : visit.Elsewhere state.store.shelf) :
    visit.Elsewhere (visit.call stage state).state.store.shelf := by
  intro key message attempts
  rcases Retrieval.step_moves (Interrupted.lawful Backend.lawful) stage state with
    ⟨_, same⟩ | ⟨exchange, moves, effect⟩
  · rw [call, same]
    exact elsewhere key message attempts
  · have others := effect.others
    rcases moves.about with about | about
    · rw [about] at others
      exact (others key message).trans (elsewhere key message attempts)
    · rw [about] at others
      exact (others key attempts).trans (elsewhere key message attempts)

end Steps
end Visit

/-- Whichever of its calls fail on the way, a retrieval ends with an outcome, touches nothing but the envelope and the
counter of its message, and its outcome tells what it has done to them. -/
theorem retrieve_tells {service : Service} {now : Instant} {id keyText : String} {key : Bytes} {count : Int}
    (store : Backend) (plan : List (Option String)) (accepted : keyOf id keyText = .ok key)
    (sound : Visit.Sound ⟨service, now, id, key, count, store.shelf, plan⟩) :
    let visit : Visit := ⟨service, now, id, key, count, store.shelf, plan⟩
    let run := service.retrieve (Interrupted.interface Backend.interface) now id keyText ⟨store, plan⟩
    visit.Elsewhere run.state.store.shelf ∧
      ∃ outcome, run.result = .ok outcome ∧ visit.Tells run.state.store.shelf outcome := by
  intro visit run
  -- by induction on the calls, with what was reached and what was left alone as the invariant
  have unmade : visit.Made 0 ⟨store, plan⟩ := ⟨rfl, nofun, fun called => absurd rfl called⟩
  obtain ⟨elsewhere, reached⟩ := @Retrieval.steps_induction _ service (Interrupted.interface Backend.interface) id key
    now (fun stage later => visit.Elsewhere later.store.shelf ∧ visit.Reached later stage)
    (fun stage later ⟨elsewhere, reached⟩ => ⟨Visit.Elsewhere.step elsewhere, reached.step sound⟩)
    Retrieval.counting.remaining .counting ⟨store, plan⟩ ⟨fun _ _ _ => rfl, unmade, fun _ => rfl⟩
  obtain ⟨result, ended⟩ := @Retrieval.steps_ended _ service (Interrupted.interface Backend.interface) id key now
    Retrieval.counting.remaining .counting (Nat.le_refl _) ⟨store, plan⟩
  rw [ended] at reached
  obtain ⟨outcome, rfl, tells⟩ := reached
  simp only [run, Service.retrieve, accepted, ended]
  exact ⟨elsewhere, outcome, rfl, tells⟩

/-- Where the last call of an attempt fails, which would remove the counter, the text is lost: the envelope is gone and
was not handed over. -/
theorem Deposit.Waiting.uncleared {deposit : Deposit} {count : Nat} {now : Instant} {state : Backend}
    (waiting : deposit.Waiting count state.shelf) (ready : deposit.Ready now state)
    (room : count + 1 < Text.numeralLimit) {key text : String} {bytes : Bytes}
    (accepted : keyOf deposit.id key = .ok bytes) (within : ((count + 1 : Nat) : Int) ≤ deposit.service.maxTries)
    (fits : Retrieval.reveal? deposit.envelope bytes = some text) (reason : String) :
    let run := deposit.service.retrieve (Interrupted.interface Backend.interface) now deposit.id key
      ⟨state, [none, none, none, some reason]⟩
    run.result = .ok (.failure .storeUnavailable "") ∧
      run.state.store.shelf.find? (Key.message deposit.id) = none := by
  obtain ⟨next, counted, calm, _, same⟩ := waiting.increment ready room
  have live := live_of_find? (same.trans (waiting.stored (by omega))) ready.fresh
  obtain ⟨read, got, quiet, tidied⟩ := Backend.working.read Backend.lawful calm now (Key.message deposit.id)
  obtain ⟨claimed, won, _, gone, _⟩ := Backend.working.remove Backend.lawful quiet now (Key.message deposit.id)
  rw [tidied.live?_eq, live] at won
  rw [live] at got
  simp only [Service.retrieve, accepted, Retrieval.remaining, Retrieval.steps, Retrieval.step, Interrupted.interface,
    Interrupted.attempt, counted, if_neg (Int.not_lt.mpr within), got, Option.map_some, Retrieval.examine, fits, won,
    Option.isSome_some, Retrieval.fail, afterFault, Retrieval.result, true_and]
  exact gone

namespace Visit

/-- The first attempt at a text that may be tried once, under a key of equal bytes. -/
def opening (before : Shelf) (plan : List (Option String)) : Visit where
  service := ⟨Duration.day, 1, 100⟩
  now := 0
  id := Id.ofBytes (List.replicate 16 0)
  key := List.replicate 32 1
  count := 0
  before := before
  plan := plan

/-- The creation of that text. -/
def origin : Run (Nat × Backend) (Except Fault (Outcome (Identifier String))) :=
  let source : RandomSource Nat :=
    ⟨fun length count => (.bytes (List.replicate length (UInt8.ofNat count)), count + 1)⟩
  (opening .empty []).service.create source Backend.interface 0 "text" (0, .memory .empty)

/-- The attempt, with calls that fail. -/
def attempt (store : Backend) (plan : List (Option String)) :
    Run (Interrupted Backend) (Except Fault (Outcome String)) :=
  let visit := opening store.shelf plan
  visit.service.retrieve (Interrupted.interface Backend.interface) visit.now visit.id (Base64.encode visit.key)
    ⟨store, plan⟩

private theorem opening_accepted :
    keyOf (Id.ofBytes (List.replicate 16 0)) (Base64.encode (List.replicate 32 1)) = .ok (List.replicate 32 1) := by
  rfl

private theorem pow_ten_pos (digits : Nat) : 0 < Nat.pow 10 digits := Nat.pow_pos (by decide)

private theorem opening_sound {before : Shelf} {plan : List (Option String)}
    (absent : before.live? 0 (Key.attempts (opening before plan).id) = none) : (opening before plan).Sound where
  allowed := Int.le_refl 1
  lasting := show (0 : Int) < Duration.day by decide
  reached := show (Instant.after? 0 Duration.day).isSome by decide
  tried := by
    show Tried 0 (opening before plan).id 0 before
    simp only [Tried, absent]
  short := pow_ten_pos countDigits

end Visit

/-- Where the counter can not be removed after the envelope, the store is said to be out of reach, yet the envelope is
gone: not only the counter has changed. -/
theorem retrieve_unavailable_loses_envelope :
    let store := Visit.origin.state.2
    let visit := Visit.opening store.shelf [none, none, none, some "lost"]
    let run := Visit.attempt store visit.plan
    visit.Sound ∧ run.result = .ok (.failure .storeUnavailable "") ∧
      ¬ (Alike visit.now visit.before run.state.store.shelf ∨ visit.Counted run.state.store.shelf) := by
  intro store visit run
  have uncounted : store.shelf.find? (Key.attempts visit.id) = none := by decide +kernel
  have created : Visit.origin.result = .ok (.success ⟨visit.id, Base64.encode visit.key⟩) := by rfl
  obtain ⟨envelope, secret, drawn, written, there, _⟩ := Service.create_deposits Backend.lawful created
  have same := congrArg Base64.decode? written
  rw [Base64.decode?_encode, Base64.decode?_encode] at same
  cases same
  have opens := (Creation.draw_forms drawn).reveal?
  let deposit : Deposit := ⟨visit.service, visit.id, envelope, 0 + visit.service.retention⟩
  have waiting : deposit.Waiting 0 store.shelf :=
    ⟨fun _ => there, fun counted => absurd rfl counted, fun _ => uncounted, fun counted => absurd rfl counted⟩
  have ready : deposit.Ready 0 store :=
    ⟨trivial, show (0 : Int) < 0 + Duration.day by decide, Int.le_refl _,
      show (Instant.after? 0 Duration.day).isSome by decide⟩
  obtain ⟨result, gone⟩ := waiting.uncleared ready Text.Numeral.one_lt_numeralLimit Visit.opening_accepted
    (Int.le_refl 1) opens "lost"
  have live : visit.before.live? visit.now (Key.message visit.id) = some ⟨envelope, some deposit.due⟩ :=
    Deposit.live_of_find? there ready.fresh
  have lost : run.state.store.shelf.live? visit.now (Key.message visit.id) = none :=
    Shelf.live?_eq_none.mpr fun entry found => nomatch gone.symm.trans found
  refine ⟨Visit.opening_sound (by rw [Shelf.live?, uncounted]; rfl), result, ?_⟩
  rintro (alike | counted)
  · have same := alike (Key.message visit.id)
    rw [live, lost] at same
    cases same
  · have same := counted.others _ (Key.message_ne_attempts visit.id visit.id)
    rw [live, lost] at same
    cases same

set_option maxRecDepth 4000 in
/-- A counter that has expired does not count, and the call that would claim the text is lost. -/
theorem retrieve_tells_expired :
    let id := Id.ofBytes (List.replicate 16 0)
    let store : Backend := .table ⟨Visit.origin.state.2.shelf.insert (Key.attempts id) ⟨"7", some 0⟩, .ready, 1⟩
    let visit := Visit.opening store.shelf [none, none, some "lost"]
    let run := Visit.attempt store visit.plan
    visit.Sound ∧ visit.Elsewhere run.state.store.shelf ∧
      ∃ outcome, run.result = .ok outcome ∧ visit.Tells run.state.store.shelf outcome := by
  intro id store visit run
  have sound : visit.Sound := Visit.opening_sound (by decide +kernel)
  exact ⟨sound, retrieve_tells store visit.plan Visit.opening_accepted sound⟩

end ReadOnce.Message
