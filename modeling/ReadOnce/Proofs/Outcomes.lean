import ReadOnce.Proofs.Integrity
import ReadOnce.Proofs.Retrieval
import ReadOnce.Proofs.Settings

/-!
What is needed for every operation to come to an outcome. Random sources and stores may be out of reach, which is an
outcome; only the calendar makes operations fail, where it does not have the time when an entry made now expires.
Settings say how far ahead that is, and they may say more than the calendar has.
-/
namespace ReadOnce

/-- Where it fails, the source is unavailable or answers with the wrong number of bytes. -/
def RandomSource.Ordinary {ρ : Type} (source : RandomSource ρ) : Prop :=
  ∀ length dice reason, (source.draw length dice).1 ≠ .refused reason

/-- A failure that a creation answers for. -/
def RandomFault.IsOrdinary (fault : RandomFault) : Prop := fault = .unavailable ∨ fault = .wrongLength

section Sources

variable {ρ : Type} {source : RandomSource ρ}

theorem RandomSource.Ordinary.bytes (ordinary : source.Ordinary) {length : Nat} {dice next : ρ} {fault : RandomFault}
    (failed : source.bytes length dice = (.error fault, next)) : fault.IsOrdinary := by
  have plain := ordinary length dice
  unfold RandomSource.bytes at failed
  split at failed
  · split at failed
    · cases failed
    · cases failed
      exact .inr rfl
  · cases failed
    exact .inl rfl
  · next refused =>
    rw [refused] at plain
    exact absurd rfl (plain _)

/-- Locking up takes keys of the length that creations draw. -/
theorem RandomSource.Ordinary.lock (ordinary : source.Ordinary) {text key : Bytes} {dice next : ρ}
    {fault : Envelope.LockFault} (sized : key.length = Envelope.keyLength)
    (failed : Envelope.lock source text key dice = (.error fault, next)) :
    ∃ reason : RandomFault, reason.IsOrdinary ∧ fault = .random reason := by
  obtain ⟨schedule, scheduled⟩ := Envelope.exists_schedule sized
  unfold Envelope.lock at failed
  split at failed
  · next reason _ drawn =>
    cases failed
    exact ⟨reason, ordinary.bytes drawn, rfl⟩
  · rw [scheduled] at failed
    cases failed

theorem RandomSource.Ordinary.draw (ordinary : source.Ordinary) {text : String} {dice next : ρ}
    {fault : Envelope.LockFault} (failed : Message.Creation.draw source text dice = (.error fault, next)) :
    ∃ reason : RandomFault, reason.IsOrdinary ∧ fault = .random reason := by
  unfold Message.Creation.draw at failed
  split at failed
  · next reason _ drawn =>
    cases failed
    exact ⟨reason, ordinary.bytes drawn, rfl⟩
  · split at failed
    · next reason _ drawn =>
      cases failed
      exact ⟨reason, ordinary.bytes drawn, rfl⟩
    · next key _ drawn =>
      split at failed
      · next lost _ refused =>
        cases failed
        exact ordinary.lock (RandomSource.length_bytes drawn) refused
      · cases failed

end Sources

namespace Message

open Store

variable {ρ σ : Type} {service : Service} {source : RandomSource ρ} {store : KeyValueStore σ} {shelf : σ → Shelf}
  {now : Instant}

theorem afterFault_outage {α : Type} (doing : String) {fault : StoreFault} (outage : fault.IsOutage) :
    (afterFault doing fault : Except Fault (Outcome α) × Log).1 = .ok (.failure .storeUnavailable "") := by
  obtain ⟨reason, rfl⟩ := outage
  rfl

/-- With an ordinary source and a store that stores unless it is out of reach, a creation comes to an outcome. -/
theorem Service.create_outcome (ordinary : source.Ordinary)
    (plain : ∀ key envelope state fault, (store.put now key envelope service.retention state).1 = .error fault →
      fault.IsOutage) (text : String) (world : ρ × σ) :
    ∃ outcome, (service.create source store now text world).result = .ok outcome := by
  have begun : (∃ id envelope key, (Creation.start service source text world.1).result = .storing id envelope key) ∨
      ∃ outcome, (Creation.start service source text world.1).result = .ended (.ok outcome) := by
    unfold Creation.start
    split
    · exact .inr ⟨_, rfl⟩
    · split
      · exact .inl ⟨_, _, _, rfl⟩
      · exact .inr ⟨_, rfl⟩
      · exact .inr ⟨_, rfl⟩
      · next fault next unavailable wrongLength failed =>
        obtain ⟨reason, rfl | rfl, rfl⟩ := ordinary.draw failed
        · exact absurd rfl unavailable
        · exact absurd rfl wrongLength
  simp only [create]
  obtain ⟨id, envelope, key, storing⟩ | ⟨outcome, ended⟩ := begun
  · have outage := plain (Key.message id) envelope world.2
    rw [storing, Creation.step]
    generalize store.put now (Key.message id) envelope service.retention world.2 = answer at outage ⊢
    rcases answer with ⟨fault | done, next⟩
    · exact ⟨_, afterFault_outage "creating a message" (outage fault rfl)⟩
    · exact ⟨_, rfl⟩
  · rw [ended]
    exact ⟨outcome, rfl⟩

namespace Retrieval

/-- A retrieval under way that is not kept from counting the attempt and has not ended in a fault. -/
def Unbroken (now : Instant) (id : String) (shelf : Shelf) : Retrieval → Prop
  | .counting => Countable now (Key.attempts id) shelf
  | .ended result => ∃ outcome, result = .ok outcome
  | .discarding | .fetching _ | .claiming _ | .clearing _ => True

theorem examine_unbroken (id : String) (key : Bytes) (attempt : Int) (envelope : Option String) (shelf : Shelf) :
    Unbroken now id shelf (examine id key attempt envelope).1 := by
  cases envelope with
  | none => exact ⟨_, rfl⟩
  | some envelope =>
    simp only [examine]
    cases reveal? envelope key with
    | none => exact ⟨_, rfl⟩
    | some text => trivial

theorem fail_unbroken (id : String) {fault : StoreFault} (outage : fault.IsOutage) (state : σ) (shelf : Shelf) :
    Unbroken now id shelf (fail id fault state).result :=
  ⟨_, afterFault_outage ("retrieving " ++ id) outage⟩

section Steps

variable (plain : store.Plain shelf) (id : String) (key : Bytes) (state : σ)

include plain

private theorem counting_unbroken (due : (now.after? service.retention).isSome)
    (countable : Countable now (Key.attempts id) (shelf state)) :
    let run := Retrieval.counting.step service store id key now state
    Unbroken now id (shelf run.state) run.result := by
  have outage (fault : StoreFault) := @KeyValueStore.Plain.increment σ store shelf plain now (Key.attempts id)
    (some service.retention) _ state fault (counterExpiry_of_after? due) countable
  simp only [Retrieval.step]
  generalize store.increment now (Key.attempts id) (some service.retention) state = answer at outage ⊢
  rcases answer with ⟨fault | attempt, next⟩
  · exact fail_unbroken id (outage fault rfl) next _
  · dsimp only
    split <;> trivial

private theorem fetching_unbroken (attempt : Int) :
    let run := (Retrieval.fetching attempt).step service store id key now state
    Unbroken now id (shelf run.state) run.result := by
  have outage (fault : StoreFault) := @KeyValueStore.Plain.get σ store shelf plain now (Key.message id) state fault
  simp only [Retrieval.step]
  generalize store.get now (Key.message id) state = answer at outage ⊢
  rcases answer with ⟨fault | envelope, next⟩
  · exact fail_unbroken id (outage fault rfl) next _
  · exact examine_unbroken id key attempt envelope _

private theorem discarding_unbroken :
    let run := Retrieval.discarding.step service store id key now state
    Unbroken now id (shelf run.state) run.result := by
  have outage (fault : StoreFault) := @KeyValueStore.Plain.delete σ store shelf plain now (Key.message id) state fault
  simp only [Retrieval.step]
  generalize store.delete now (Key.message id) state = answer at outage ⊢
  rcases answer with ⟨fault | removed, next⟩
  · exact fail_unbroken id (outage fault rfl) next _
  · exact ⟨_, rfl⟩

private theorem claiming_unbroken (text : String) :
    let run := (Retrieval.claiming text).step service store id key now state
    Unbroken now id (shelf run.state) run.result := by
  have outage (fault : StoreFault) := @KeyValueStore.Plain.delete σ store shelf plain now (Key.message id) state fault
  simp only [Retrieval.step]
  generalize store.delete now (Key.message id) state = answer at outage ⊢
  rcases answer with ⟨fault | _ | _, next⟩
  · exact fail_unbroken id (outage fault rfl) next _
  · exact ⟨_, rfl⟩
  · trivial

private theorem clearing_unbroken (text : String) :
    let run := (Retrieval.clearing text).step service store id key now state
    Unbroken now id (shelf run.state) run.result := by
  have outage (fault : StoreFault) := @KeyValueStore.Plain.delete σ store shelf plain now (Key.attempts id) state fault
  simp only [Retrieval.step]
  generalize store.delete now (Key.attempts id) state = answer at outage ⊢
  rcases answer with ⟨fault | removed, next⟩
  · exact fail_unbroken id (outage fault rfl) next _
  · exact ⟨_, rfl⟩

/-- Every call is answered, or the store was out of reach, which is an outcome. -/
theorem Unbroken.step (due : (now.after? service.retention).isSome) {stage : Retrieval}
    (unbroken : Unbroken now id (shelf state) stage) :
    let run := stage.step service store id key now state
    Unbroken now id (shelf run.state) run.result := by
  cases stage with
  | counting => exact counting_unbroken plain id key state due unbroken
  | fetching attempt => exact fetching_unbroken plain id key state attempt
  | discarding => exact discarding_unbroken plain id key state
  | claiming text => exact claiming_unbroken plain id key state text
  | clearing text => exact clearing_unbroken plain id key state text
  | ended result => exact unbroken

end Steps

end Retrieval

/-- Where there is a next count of the attempts at it, and a time for that count to expire, a retrieval comes to an
outcome. -/
theorem Service.retrieve_outcome (plain : store.Plain shelf) (due : (now.after? service.retention).isSome)
    (id key : String) {state : σ} (countable : Countable now (Key.attempts id) (shelf state)) :
    ∃ outcome, (service.retrieve store now id key state).result = .ok outcome := by
  unfold retrieve
  cases keyOf id key with
  | error fault => exact ⟨_, rfl⟩
  | ok bytes =>
    have unbroken := @Retrieval.steps_induction σ service store id bytes now
      (fun stage later => Retrieval.Unbroken now id (shelf later) stage)
      (fun _ later unbroken => Retrieval.Unbroken.step plain id bytes later due unbroken)
      Retrieval.counting.remaining .counting state countable
    obtain ⟨result, ended⟩ := @Retrieval.steps_ended σ service store id bytes now Retrieval.counting.remaining
      .counting (Nat.le_refl _) state
    rw [ended] at unbroken
    simp only [ended, Retrieval.result]
    exact unbroken

end Message

namespace Store

/-- No message counts as tried more often than so many times, live or not. -/
def CountedUpTo (bound : Nat) (shelf : Shelf) : Prop :=
  ∀ id entry, shelf.find? (Key.attempts id) = some entry → ∃ count : Nat, count ≤ bound ∧
    entry.value = toString (count : Int)

namespace CountedUpTo

variable {bound : Nat} {now : Instant} {key id : String} {before after : Shelf}

theorem empty (bound : Nat) : CountedUpTo bound .empty := nofun

theorem mono (counted : CountedUpTo bound before)
    (within : ∀ id entry, after.find? (Key.attempts id) = some entry → before.find? (Key.attempts id) = some entry) :
    CountedUpTo bound after :=
  fun id entry found => counted id entry (within id entry found)

theorem weaken {more : Nat} (counted : CountedUpTo bound before) (least : bound ≤ more) :
    CountedUpTo more before := by
  intro id entry found
  obtain ⟨count, within, written⟩ := counted id entry found
  exact ⟨count, Nat.le_trans within least, written⟩

theorem countable (counted : CountedUpTo bound before) (room : bound + 1 < Text.numeralLimit) (now : Instant)
    (id : String) : Countable now (Key.attempts id) before := by
  intro entry live
  obtain ⟨count, within, written⟩ := counted id entry (Shelf.live?_eq_some.mp live).1
  exact ⟨_, written ▸ nextCount_toString (by omega)⟩

theorem raised {duration : Option Duration} {answer : Int} (counted : CountedUpTo bound before)
    (small : bound < Text.numeralLimit)
    (effect : Effect now before after (.increment (Key.attempts id) duration (.ok answer))) :
    CountedUpTo (bound + 1) after := by
  intro other entry found
  by_cases same : Key.attempts other = Key.attempts id
  · rw [same] at found
    rcases effect.of_increment with ⟨_, _, expires, _, here⟩ | ⟨earlier, value, live, next, here⟩
    · cases here.symm.trans found
      exact ⟨1, Nat.le_add_left 1 bound, rfl⟩
    · cases here.symm.trans found
      obtain ⟨count, within, written⟩ := counted id earlier (Shelf.live?_eq_some.mp live).1
      rw [written] at next
      obtain ⟨_, rfl, _⟩ := nextCount_toString_ok (by omega) next
      exact ⟨count + 1, Nat.succ_le_succ within, rfl⟩
  · rw [effect.others _ same] at found
    exact counted.weaken (Nat.le_succ bound) other entry found

end CountedUpTo
end Store

namespace Message

open Store

variable {ρ σ : Type} {bound : Nat}

/-- How often an operation has counted an attempt so far, at most. -/
def Operation.attempted : Operation → Nat
  | .retrieval _ _ _ .counting => 0
  | _ => 1

theorem Operation.attempted_le (operation : Operation) : operation.attempted ≤ 1 := by
  unfold attempted
  split <;> decide

theorem Operation.attempted_examine (service : Service) (id : String) (key : Bytes) (attempt : Int)
    (envelope : Option String) :
    (Operation.retrieval service id key (Retrieval.examine id key attempt envelope).1).attempted = 1 := by
  cases envelope with
  | none => rfl
  | some envelope =>
    simp only [Retrieval.examine]
    cases Retrieval.reveal? envelope key with
    | none | some _ => rfl

/-- Only counting the attempt makes a counter grow, and that is done once. -/
theorem Moves.countedUpTo {now : Instant} {operation next : Operation} {exchange : Exchange} {before after : Shelf}
    (moves : Moves operation next exchange) (effect : Effect now before after exchange)
    (small : bound < Text.numeralLimit) (counted : CountedUpTo (bound + operation.attempted) before) :
    CountedUpTo (bound + next.attempted) after := by
  cases moves with
  | stored service id envelope key =>
    obtain ⟨_, _, _, others⟩ := effect.of_put
    exact counted.mono fun other entry found => others _ (Key.message_ne_attempts id other).symm ▸ found
  | unstored => exact counted.mono fun other entry => (effect.of_fault rfl).found
  | counted service id key attempt =>
    refine (counted.raised small effect).weaken ?_
    split <;> exact Nat.le_refl _
  | fetched service id key attempt envelope =>
    rw [Operation.attempted_examine]
    exact counted.mono fun other entry => effect.of_get.2.found
  | discarded | lost | cleared | won =>
    obtain ⟨_, gone, others⟩ := effect.of_delete
    exact counted.mono fun other entry => others.found gone
  | broken service id key stage fault failed =>
    refine (counted.mono fun other entry => (effect.of_fault (by rw [failed]; rfl)).found).weaken ?_
    exact Nat.add_le_add_left (Operation.attempted_le _) bound

theorem Operation.step_countedUpTo {store : KeyValueStore σ} {shelf : σ → Shelf} (lawful : store.Lawful shelf)
    {now : Instant} {operation : Operation} {state : σ} (small : bound < Text.numeralLimit)
    (counted : CountedUpTo (bound + operation.attempted) (shelf state)) :
    CountedUpTo (bound + (operation.step store now state).1.attempted) (shelf (operation.step store now state).2) := by
  rcases operation.step_moves lawful now state with ended | ⟨exchange, moves, effect⟩
  · rw [ended]
    exact counted
  · exact moves.countedUpTo effect small counted

namespace Service

section Whole

variable {service : Service} {source : RandomSource ρ} {store : KeyValueStore σ} {shelf : σ → Shelf} {now : Instant}

theorem create_countedUpTo (lawful : store.Lawful shelf) (text : String) {world : ρ × σ}
    (small : bound < Text.numeralLimit) (counted : CountedUpTo bound (shelf world.2)) :
    CountedUpTo (bound + 1) (shelf (service.create source store now text world).state.2) := by
  have stepped := @Operation.step_countedUpTo σ bound store shelf lawful now
    (Operation.create service source world.1 text) world.2 small (counted.weaken (Nat.le_add_right bound _))
  exact stepped.weaken (Nat.add_le_add_left (Operation.attempted_le _) bound)

theorem retrieve_countedUpTo (lawful : store.Lawful shelf) (id key : String) {state : σ}
    (small : bound < Text.numeralLimit) (counted : CountedUpTo bound (shelf state)) :
    CountedUpTo (bound + 1) (shelf (service.retrieve store now id key state).state) := by
  unfold retrieve
  cases keyOf id key with
  | error fault => exact counted.weaken (Nat.le_succ bound)
  | ok bytes =>
    have kept := @Retrieval.steps_induction σ service store id bytes now
      (fun stage later => CountedUpTo (bound + (Operation.retrieval service id bytes stage).attempted) (shelf later))
      (fun stage later counted => Operation.step_countedUpTo lawful small counted)
      Retrieval.counting.remaining .counting state counted
    exact kept.weaken (Nat.add_le_add_left (Operation.attempted_le _) bound)

theorem perform_countedUpTo (occasion : Occasion) {world : ρ × Backend} (small : bound < Text.numeralLimit)
    (counted : CountedUpTo bound world.2.shelf) :
    CountedUpTo (bound + 1) (service.perform source occasion world).2.shelf := by
  have lawful := Interrupted.lawful Backend.lawful
  rcases @perform_cases ρ service source occasion world with same | same | ⟨text, same⟩ | ⟨id, key, same⟩
  · rw [same]
    exact counted.weaken (Nat.le_succ bound)
  · rw [same]
    exact (counted.mono fun _ _ => Backend.found_of_purge).weaken (Nat.le_succ bound)
  · rw [same]
    exact create_countedUpTo lawful text small counted
  · rw [same]
    exact retrieve_countedUpTo lawful id key small counted

/-- No message counts as tried more often than there were occasions. -/
theorem performAll_countedUpTo (occasions : List Occasion) {world : ρ × Backend}
    (small : bound + occasions.length ≤ Text.numeralLimit) (counted : CountedUpTo bound world.2.shelf) :
    CountedUpTo (bound + occasions.length) (service.performAll source occasions world).2.shelf := by
  induction occasions generalizing bound world with
  | nil => exact counted
  | cons occasion rest ih =>
    rw [List.length_cons] at small ⊢
    have next : CountedUpTo (bound + 1) (service.perform source occasion world).2.shelf :=
      perform_countedUpTo occasion (by omega) counted
    exact (ih (by omega) next).weaken (by omega)

end Whole

/-- Whatever is asked of a service at a time, it comes to an outcome. -/
def Answers (service : Service) (source : RandomSource ρ) (now : Instant) (world : ρ × Interrupted Backend) : Prop :=
  (∀ text, ∃ outcome,
    (service.create source (Interrupted.interface Backend.interface) now text world).result = .ok outcome) ∧
  ∀ id key, ∃ outcome,
    (service.retrieve (Interrupted.interface Backend.interface) now id key world.2).result = .ok outcome

theorem answers_of_after? {service : Service} {source : RandomSource ρ} {now : Instant}
    (ordinary : source.Ordinary) (due : (now.after? service.retention).isSome) {world : ρ × Interrupted Backend}
    (counted : CountedUpTo bound world.2.store.shelf) (room : bound + 1 < Text.numeralLimit) :
    service.Answers source now world := by
  refine ⟨fun text => create_outcome ordinary (fun key envelope state fault => ?_) text world, fun id key => ?_⟩
  · exact Interrupted.put_plain (Backend.put_plain (expiry_of_after? due))
  · exact retrieve_outcome (Interrupted.plain Backend.plain) due id key (counted.countable room now id)

/-- Without a time for the count to expire, the attempt cannot even be counted. -/
theorem retrieve_late {service : Service} {now : Instant} (late : now.after? service.retention = none)
    {id key : String} {bytes : Bytes} (accepted : keyOf id key = .ok bytes) :
    (service.retrieve (Interrupted.interface Backend.interface) now id key ⟨.memory .empty, []⟩).result =
      .error (.store .dateRange) := by
  have refused : counterExpiry now (some service.retention) = .error .dateRange := by
    simp only [counterExpiry, expiry, late]
    rfl
  simp only [retrieve, accepted, Retrieval.remaining, Retrieval.steps, Retrieval.step, Interrupted.interface,
    Interrupted.attempt, Backend.interface, Backend.call, Memory.increment, Memory.visit, Memory.empty,
    Shelf.find?_empty, refused]
  rfl

private theorem guest_accepted :
    keyOf "guest" (Base64.encode (List.replicate 32 1)) = .ok (List.replicate 32 1) := by
  rfl

/-- A service answers only while the calendar has the time when an entry made now expires. -/
theorem Answers.after? {service : Service} {source : RandomSource ρ} {now : Instant} {dice : ρ}
    (answers : service.Answers source now (dice, ⟨.memory .empty, []⟩)) : (now.after? service.retention).isSome := by
  obtain ⟨outcome, answered⟩ := answers.2 "guest" (Base64.encode (List.replicate 32 1))
  cases late : now.after? service.retention with
  | some time => rfl
  | none =>
    rw [retrieve_late late guest_accepted] at answered
    cases answered

end Service
end Message

namespace Instant

/-- The last microsecond of the year 2100. -/
def endOf2100 : Instant := 4133980799999999

theorem isSome_after? {now : Instant} {duration : Duration} (early : earliest ≤ now) (ahead : 0 ≤ duration) :
    (now.after? duration).isSome ↔ now + duration ≤ latest := by
  have lower : earliest ≤ now + duration := Int.le_trans early (Int.le_add_of_nonneg_right ahead)
  simp only [after?, lower, true_and]
  split
  · next inside => exact iff_of_true rfl inside
  · next beyond => exact iff_of_false Bool.false_ne_true beyond

end Instant

namespace Settings

open Message Store

/-- As many days as the calendar has left after 2100 are days that a duration may have. -/
theorem exists_service {settings : Settings} (bounded : settings.Bounded)
    (calendar : Instant.endOf2100 + settings.autoDeleteDays * Duration.day ≤ Instant.latest) :
    ∃ service, Service.ofSettings settings = .ok service := by
  have least := bounded.autoDeleteDays
  have few : settings.autoDeleteDays.natAbs ≤ Duration.dayLimit := by
    have short : (4133980799999999 : Int) + settings.autoDeleteDays * 86400000000 ≤ 253402300799999999 := calendar
    simp only [Duration.dayLimit]
    omega
  exact ⟨_, by rw [Service.ofSettings, Service.configure, Duration.ofDays, if_pos few, Except.map]⟩

theorem retention_ofSettings {settings : Settings} {service : Service}
    (opened : Service.ofSettings settings = .ok service) :
    service.retention = settings.autoDeleteDays * Duration.day := by
  simp only [Service.ofSettings, Service.configure, Duration.ofDays] at opened
  split at opened
  · cases opened
    rfl
  · cases opened

/-- For accepted settings, there is a service that comes to an outcome whatever it is asked up to the end of 2100,
exactly if the calendar has the times when the messages of that year expire. What was done before, and with how many
calls to the store failing, does not matter, up to so many occasions that counters could no longer be written. -/
theorem answers_iff {environment : Environment} {settings : Settings}
    (accepted : ofEnvironment environment = .ok settings) :
    (∃ service, Service.ofSettings settings = .ok service ∧
      ∀ {ρ : Type} (source : RandomSource ρ), source.Ordinary →
        ∀ (dice : ρ) (store : Backend), store.shelf = .empty →
          ∀ occasions : List Occasion, occasions.length + 1 < Text.numeralLimit →
            ∀ now plan, 0 ≤ now → now ≤ Instant.endOf2100 →
              let world := service.performAll source occasions (dice, store)
              service.Answers source now (world.1, ⟨world.2, plan⟩)) ↔
      Instant.endOf2100 + settings.autoDeleteDays * Duration.day ≤ Instant.latest := by
  have bounded := ofFields_bounded accepted
  have ahead : 0 ≤ settings.autoDeleteDays * Duration.day := by
    have := bounded.autoDeleteDays
    simp only [Duration.day, Duration.second]
    omega
  constructor
  · rintro ⟨service, opened, answers⟩
    let source : RandomSource Unit := ⟨fun length _ => (.bytes (List.replicate length 0), ())⟩
    -- asked at the last moment of the year, with nothing done before
    have last := answers source nofun () (.memory .empty) rfl [] Text.Numeral.one_lt_numeralLimit Instant.endOf2100 []
      (by decide) (Int.le_refl _)
    rw [← retention_ofSettings opened] at ahead ⊢
    exact (Instant.isSome_after? (by decide) ahead).mp last.after?
  · intro calendar
    obtain ⟨service, opened⟩ := exists_service bounded calendar
    rw [← retention_ofSettings opened] at ahead calendar
    refine ⟨service, opened, ?_⟩
    intro ρ source ordinary dice store empty occasions few now plan early late world
    -- each occasion adds one to a counter at most, so there is a next count for all of them
    have counted : CountedUpTo (0 + occasions.length) world.2.shelf :=
      Service.performAll_countedUpTo occasions (by omega) (empty ▸ CountedUpTo.empty 0)
    have due : (now.after? service.retention).isSome := by
      refine (Instant.isSome_after? (Int.le_trans (by decide) early) ahead).mpr ?_
      exact Int.le_trans (Int.add_le_add_right late _) calendar
    exact Service.answers_of_after? ordinary due counted (by omega)

/-- A week is not too long, whether or not random bytes and the store can be had. -/
theorem answers_iff_week :
    let settings : Settings := { autoDeleteDays := 7 }
    let source : RandomSource Unit := ⟨fun _ _ => (.unavailable, ())⟩
    ofEnvironment [("AUTO_DELETE_DAYS", "7")] = .ok settings ∧
      ∃ service, Service.ofSettings settings = .ok service ∧
        ∀ store : Backend, store.shelf = .empty →
          service.Answers source 1704067200000000 ((), ⟨store, [none, some "lost"]⟩) := by
  intro settings source
  have accepted : ofEnvironment [("AUTO_DELETE_DAYS", "7")] = .ok settings := by rfl
  obtain ⟨service, opened, answers⟩ := (answers_iff accepted).mpr (by decide)
  refine ⟨accepted, service, opened, fun store empty => ?_⟩
  have ordinary : source.Ordinary := nofun
  exact answers source ordinary () store empty [] Text.Numeral.one_lt_numeralLimit 1704067200000000
    [none, some "lost"] (by decide) (by decide)

/-- Three million days are accepted, and in 2024 a creation and a retrieval fail for them; for a thousand million days,
which are accepted too, there is no service at all. -/
theorem accepted_beyond_calendar :
    let source : RandomSource Unit := ⟨fun length _ => (.bytes (List.replicate length 0), ())⟩
    let store := Interrupted.interface Backend.interface
    let state : Interrupted Backend := ⟨.memory .empty, []⟩
    (∃ settings service, ofEnvironment [("AUTO_DELETE_DAYS", "3000000")] = .ok settings ∧
      Service.ofSettings settings = .ok service ∧
      (service.create source store 1704067200000000 "hello" ((), state)).result = .error (.store .dateRange) ∧
      (service.retrieve store 1704067200000000 "guest" (Base64.encode (List.replicate 32 1)) state).result =
        .error (.store .dateRange)) ∧
    ∃ settings, ofEnvironment [("AUTO_DELETE_DAYS", "1000000000")] = .ok settings ∧
      Service.ofSettings settings = .error ⟨1000000000⟩ := by
  intro source store state
  refine ⟨⟨{ autoDeleteDays := 3000000 }, ⟨3000000 * Duration.day, 3, 1024 * 1024⟩, ?_, ?_, ?_, ?_⟩,
    { autoDeleteDays := 1000000000 }, ?_, ?_⟩
  · rfl
  · rfl
  · rfl
  · exact Service.retrieve_late rfl Service.guest_accepted
  · rfl
  · rfl

end Settings
end ReadOnce
