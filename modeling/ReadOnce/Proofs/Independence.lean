import ReadOnce.Proofs.Dialogue
import ReadOnce.Proofs.Retrieval

/-!
Retrievals of different messages. Whichever of several callers makes the next call to the store, each retrieval goes on
as it would if no one else made any, as its calls are about keys of its own.
-/
namespace ReadOnce.Message

open Store

/-- A retrieval that was accepted. -/
structure Party where
  service : Service
  id : String
  key : Bytes

namespace Party

def operation (party : Party) (stage : Retrieval) : Operation := .retrieval party.service party.id party.key stage

/-- The retrieval after so many calls, where no one else makes any. -/
def alone (party : Party) (now : Instant) (store : Backend) (count : Nat) : Run Backend Retrieval :=
  Retrieval.steps party.service Backend.interface party.id party.key now count .counting store

theorem alone_succ (party : Party) (now : Instant) (store : Backend) (count : Nat) :
    let before := party.alone now store count
    let last := Retrieval.step party.service Backend.interface party.id party.key now before.result before.state
    (party.alone now store (count + 1)).result = last.result ∧
      (party.alone now store (count + 1)).state = last.state :=
  Retrieval.steps_succ Backend.interface count .counting store

/-- The retrieval in one go. -/
def whole (party : Party) (now : Instant) (store : Backend) : Run Backend Retrieval :=
  party.alone now store 4

theorem alone_ended (party : Party) (now : Instant) (store : Backend) {count : Nat} (enough : 4 ≤ count) :
    ∃ result, (party.alone now store count).result = .ended result :=
  @Retrieval.steps_ended Backend party.service Backend.interface party.id party.key now count .counting enough store

theorem whole_of_ended {party : Party} {now : Instant} {store : Backend} {count : Nat}
    {result : Except Fault (Outcome String)} (ended : (party.alone now store count).result = .ended result) :
    (party.whole now store).result = .ended result ∧
      (party.whole now store).state = (party.alone now store count).state := by
  obtain ⟨last, finished⟩ := party.alone_ended now store (Nat.le_refl 4)
  have first := Retrieval.steps_of_ended ended 4
  obtain ⟨same, state⟩ := Retrieval.steps_of_ended finished count
  rw [Nat.add_comm, first.1] at same
  rw [Nat.add_comm, first.2] at state
  exact ⟨finished.trans same.symm, state.symm⟩

end Party

/-- Callers take turns, and every call gets through. -/
def taking {ρ : Type} (now : Instant) (callers : List Nat) : List (Event ρ) :=
  callers.map fun caller => ⟨now, .call caller none⟩

/-- Every one of several retrievals of different messages has come as far, and has done as much to the store, as it
would have alone. -/
structure Traffic.Separate (parties : List Party) (now : Instant) (store : Backend) (callers : List Nat)
    (traffic : Traffic Backend) : Prop where
  many : traffic.operations.length = parties.length
  stage : ∀ (caller : Nat) (party : Party), parties[caller]? = some party →
    traffic.operations[caller]? = some (party.operation (party.alone now store (callers.count caller)).result)
  concur : ∀ (caller : Nat) (party : Party), parties[caller]? = some party →
    Backend.Concur now (Retrieval.Concerns party.id) traffic.store.store
      (party.alone now store (callers.count caller)).state
  others : Backend.Concur now (fun name => ∀ party : Party, party ∈ parties → ¬ Retrieval.Concerns party.id name)
    traffic.store.store store

namespace Traffic

variable {ρ : Type} {parties : List Party} {now : Instant} {store : Backend} {callers : List Nat}
  {traffic : Traffic Backend}

private theorem step_call {party : Party} {stage : Retrieval} {caller : Nat}
    (turn : traffic.operations[caller]? = some (party.operation stage)) :
    let run := Retrieval.step party.service Backend.interface party.id party.key now stage traffic.store.store
    let after := traffic.step Backend.interface (⟨now, .call caller none⟩ : Event ρ)
    after.operations = traffic.operations.set caller (party.operation run.result) ∧ after.store.store = run.state := by
  have plain := (party.operation stage).step_recorded Backend.interface now traffic.store
  obtain ⟨next, state⟩ := Prod.mk.inj plain
  simp only [Traffic.step, turn, Traffic.reached]
  rw [← next, ← state]
  exact ⟨rfl, rfl⟩

private theorem count_turn {caller other : Nat} (apart : caller ≠ other) :
    (callers ++ [caller]).count other = callers.count other := by
  rw [List.count_append, List.count_singleton, beq_eq_false_iff_ne.mpr apart]
  rfl

private theorem elsewhere_of_distinct (distinct : (parties.map Party.id).Nodup) {caller other : Nat}
    {mine theirs : Party} (first : parties[caller]? = some mine) (second : parties[other]? = some theirs)
    (apart : caller ≠ other) :
    ∀ name, Retrieval.Concerns mine.id name → ¬ Retrieval.Concerns theirs.id name := by
  intro name
  apply Retrieval.not_concerns
  intro same
  obtain ⟨inside, _⟩ := List.getElem?_eq_some_iff.mp first
  have shared : (parties.map Party.id)[caller]? = (parties.map Party.id)[other]? := by
    rw [List.getElem?_map, List.getElem?_map, first, second, Option.map_some, Option.map_some, same]
  rw [← List.length_map Party.id] at inside
  exact apart ((List.getElem?_inj inside distinct).mp shared)

private theorem Separate.call_none (separate : traffic.Separate parties now store callers) {caller : Nat}
    (mine : parties[caller]? = none) :
    (traffic.step Backend.interface (⟨now, .call caller none⟩ : Event ρ)).Separate parties now store
      (callers ++ [caller]) := by
  have idle : traffic.operations[caller]? = none := by
    rw [List.getElem?_eq_none_iff] at mine ⊢
    rw [separate.many]
    exact mine
  have same : traffic.step Backend.interface (⟨now, .call caller none⟩ : Event ρ) = traffic := by
    simp only [Traffic.step, idle]
  have apart {other : Nat} {party : Party} (theirs : parties[other]? = some party) : caller ≠ other := by
    rintro rfl
    rw [mine] at theirs
    cases theirs
  rw [same]
  refine ⟨separate.many, ?_, ?_, separate.others⟩
  · intro other party theirs
    rw [count_turn (apart theirs)]
    exact separate.stage other party theirs
  · intro other party theirs
    rw [count_turn (apart theirs)]
    exact separate.concur other party theirs

private theorem Separate.call_some (distinct : (parties.map Party.id).Nodup)
    (separate : traffic.Separate parties now store callers) {caller : Nat} {party : Party}
    (mine : parties[caller]? = some party) :
    (traffic.step Backend.interface (⟨now, .call caller none⟩ : Event ρ)).Separate parties now store
      (callers ++ [caller]) := by
  have turn := separate.stage caller party mine
  obtain ⟨operations, reached⟩ := @step_call ρ now traffic party _ caller turn
  have counted : (callers ++ [caller]).count caller = callers.count caller + 1 := by
    rw [List.count_append, List.count_singleton_self]
  obtain ⟨result, state⟩ := party.alone_succ now store (callers.count caller)
  obtain ⟨same, later⟩ := @Retrieval.step_concur party.service party.id party.key now _ _
    (separate.concur caller party mine) (party.alone now store (callers.count caller)).result
  obtain ⟨inside, _⟩ := List.getElem?_eq_some_iff.mp turn
  -- the caller is one call further, and to all others the call was about keys that are not theirs
  refine ⟨?_, fun other another theirs => ?_, fun other another theirs => ?_, ?_⟩
  · rw [operations, List.length_set, separate.many]
  · by_cases own : caller = other
    · subst own
      rw [mine] at theirs
      cases theirs
      rw [operations, List.getElem?_set_self inside, counted, result, same]
    · rw [operations, List.getElem?_set_ne own, count_turn own]
      exact separate.stage other another theirs
  · rw [reached]
    by_cases own : caller = other
    · subst own
      rw [mine] at theirs
      cases theirs
      rw [counted, state]
      exact later
    · rw [count_turn own]
      exact Retrieval.step_elsewhere (elsewhere_of_distinct distinct mine theirs own)
        (separate.concur other another theirs) _
  · rw [reached]
    refine Retrieval.step_elsewhere ?_ separate.others _
    intro name concerns none
    exact none party (List.mem_of_getElem? mine) concerns

/-- Whoever makes the next call, all others are as far as they were. -/
theorem Separate.call (distinct : (parties.map Party.id).Nodup) (separate : traffic.Separate parties now store callers)
    (caller : Nat) :
    (traffic.step Backend.interface (⟨now, .call caller none⟩ : Event ρ)).Separate parties now store
      (callers ++ [caller]) := by
  cases mine : parties[caller]? with
  | none => exact separate.call_none mine
  | some party => exact separate.call_some distinct mine

theorem Separate.run (distinct : (parties.map Party.id).Nodup) (separate : traffic.Separate parties now store callers)
    (more : List Nat) :
    (traffic.run Backend.interface (taking now more : List (Event ρ))).Separate parties now store
      (callers ++ more) := by
  induction more generalizing traffic callers with
  | nil =>
    rw [List.append_nil]
    exact separate
  | cons caller more ih =>
    have next := ih (@Separate.call ρ parties now store callers traffic distinct separate caller)
    rw [List.append_assoc] at next
    exact next

end Traffic

/-- Every retrieval has left behind what it leaves alone, and nothing else has changed. -/
structure Merged (parties : List Party) (now : Instant) (store after : Backend) : Prop where
  each : ∀ party : Party, party ∈ parties →
    Backend.Concur now (Retrieval.Concerns party.id) after (party.whole now store).state
  others : Backend.Concur now (fun name => ∀ party : Party, party ∈ parties → ¬ Retrieval.Concerns party.id name)
    after store

namespace Merged

variable {parties : List Party} {now : Instant} {store left right : Backend}

theorem alike (merged : Merged parties now store left) (other : Merged parties now store right) :
    Alike now left.shelf right.shelf := by
  intro name
  by_cases concerned : ∃ party ∈ parties, Retrieval.Concerns party.id name
  · obtain ⟨party, member, concerns⟩ := concerned
    exact ((merged.each party member).live name concerns).trans ((other.each party member).live name concerns).symm
  · have none : ∀ party : Party, party ∈ parties → ¬ Retrieval.Concerns party.id name := by
      intro party member concerns
      exact concerned ⟨party, member, concerns⟩
    exact (merged.others.live name none).trans (other.others.live name none).symm

theorem swap {first second : Party} (merged : Merged [first, second] now store left) :
    Merged [second, first] now store left := by
  have members (party : Party) : party ∈ [second, first] ↔ party ∈ [first, second] := by
    simp [or_comm]
  constructor
  · intro party member
    exact merged.each party ((members party).mp member)
  · have others := merged.others
    simp only [← members] at others
    exact others

end Merged

/-- A retrieval that follows another does what it does alone. -/
theorem Party.whole_after {first second : Party} {now : Instant} {store : Backend} (undisputed : store.Undisputed)
    (apart : first.id ≠ second.id) :
    let between := (first.whole now store).state
    (second.whole now between).result = (second.whole now store).result ∧
      Merged [first, second] now store (second.whole now between).state := by
  intro between
  have mine : ∀ name, Retrieval.Concerns first.id name → ¬ Retrieval.Concerns second.id name := fun name =>
    Retrieval.not_concerns apart
  have theirs : ∀ name, Retrieval.Concerns second.id name → ¬ Retrieval.Concerns first.id name := fun name =>
    Retrieval.not_concerns apart.symm
  have untouched : Backend.Concur now (Retrieval.Concerns second.id) between store :=
    Retrieval.steps_elsewhere mine _ .counting (.refl undisputed)
  have known : Backend.Concur now (Retrieval.Concerns first.id) (second.whole now between).state between :=
    Retrieval.steps_elsewhere theirs _ .counting (.refl untouched.calm)
  obtain ⟨same, later⟩ := @Retrieval.steps_concur second.service second.id second.key now _ _
    Retrieval.counting.remaining .counting untouched
  refine ⟨same, ?_, ?_⟩
  · intro party member
    simp only [List.mem_cons, List.not_mem_nil, or_false] at member
    rcases member with rfl | rfl
    · exact known
    · exact later
  · have elsewhere (party : Party) (member : party ∈ [first, second]) (name : String)
        (concerns : Retrieval.Concerns party.id name) :
        ¬ ∀ party : Party, party ∈ [first, second] → ¬ Retrieval.Concerns party.id name :=
      fun none => none party member concerns
    refine Retrieval.steps_elsewhere (elsewhere second (by simp)) _ .counting ?_
    exact Retrieval.steps_elsewhere (elsewhere first (by simp)) _ .counting (.refl undisputed)

/-- When all have ended, the store is as any order would have left it. -/
theorem Traffic.Separate.merged {parties : List Party} {now : Instant} {store : Backend} {callers : List Nat}
    {traffic : Traffic Backend} (separate : traffic.Separate parties now store callers)
    (ended : ∀ operation ∈ traffic.operations, ∃ party result, operation = Party.operation party (.ended result)) :
    Merged parties now store traffic.store.store := by
  refine ⟨?_, separate.others⟩
  intro party member
  obtain ⟨caller, there⟩ := List.mem_iff_getElem?.mp member
  have stage := separate.stage caller party there
  obtain ⟨other, result, same⟩ := ended _ (List.mem_of_getElem? stage)
  injection same with _ _ _ finished
  rw [(Party.whole_of_ended finished).2]
  exact separate.concur caller party there

/-- Two retrievals of different messages that begin at one time keep apart, whatever turns their calls take. -/
theorem Traffic.Separate.of_retrieves {ρ : Type} {first second : Party} {keyText otherText : String} {now : Instant}
    {store : Backend} (undisputed : store.Undisputed) (accepted : keyOf first.id keyText = .ok first.key)
    (admitted : keyOf second.id otherText = .ok second.key) (apart : first.id ≠ second.id) (callers : List Nat) :
    let beginnings : List (Event ρ) :=
      [⟨now, .retrieve first.service first.id keyText⟩, ⟨now, .retrieve second.service second.id otherText⟩]
    ((Traffic.begin store).run Backend.interface (beginnings ++ taking now callers)).Separate [first, second] now store
      callers := by
  have distinct : ([first, second].map Party.id).Nodup := by simp [apart]
  have start : Traffic.Separate [first, second] now store []
      ⟨[first.operation .counting, second.operation .counting], ⟨store, []⟩⟩ := by
    refine ⟨rfl, ?_, fun _ _ _ => .refl undisputed, .refl undisputed⟩
    intro caller party there
    rcases caller with _ | _ | caller
    · cases there
      rfl
    · cases there
      rfl
    · cases there
  have run := @Traffic.Separate.run ρ _ now store [] _ distinct start callers
  simp only [Traffic.run, List.foldl_append, List.foldl_cons, List.foldl_nil, Traffic.step, Traffic.begin,
    Operation.retrieve, accepted, admitted]
  exact run

theorem Traffic.Separate.operations_eq {first second : Party} {now : Instant} {store : Backend} {callers : List Nat}
    {traffic : Traffic Backend} (separate : traffic.Separate [first, second] now store callers) :
    traffic.operations = [first.operation (first.alone now store (callers.count 0)).result,
      second.operation (second.alone now store (callers.count 1)).result] := by
  apply List.ext_getElem?
  intro place
  rcases place with _ | _ | place
  · exact separate.stage 0 first rfl
  · exact separate.stage 1 second rfl
  · have few : traffic.operations.length ≤ place + 2 :=
      Nat.le_trans (Nat.le_of_eq separate.many) (Nat.le_add_left 2 place)
    rw [List.getElem?_eq_none few]
    rfl

theorem Traffic.Separate.both_ended {first second : Party} {now : Instant} {store : Backend} {callers : List Nat}
    {traffic : Traffic Backend} {result outcome : Except Fault (Outcome String)}
    (separate : traffic.Separate [first, second] now store callers)
    (both : traffic.operations = [first.operation (.ended result), second.operation (.ended outcome)]) :
    (first.whole now store).result = .ended result ∧ (second.whole now store).result = .ended outcome ∧
      Merged [first, second] now store traffic.store.store := by
  injection separate.operations_eq.symm.trans both with front back
  injection front with _ _ _ finished
  injection back with back _
  injection back with _ _ _ done
  refine ⟨(Party.whole_of_ended finished).1, (Party.whole_of_ended done).1, separate.merged ?_⟩
  intro operation member
  rw [both] at member
  simp only [List.mem_cons, List.not_mem_nil, or_false] at member
  rcases member with rfl | rfl
  · exact ⟨first, result, rfl⟩
  · exact ⟨second, outcome, rfl⟩

/-- What is live under other keys than those of the two messages stays live. -/
theorem Traffic.Separate.live_elsewhere {first second : Party} {now : Instant} {store : Backend} {callers : List Nat}
    {traffic : Traffic Backend} (separate : traffic.Separate [first, second] now store callers) {name : String}
    (elsewhere : name ∉
      [Key.message first.id, Key.attempts first.id, Key.message second.id, Key.attempts second.id]) :
    traffic.store.store.shelf.live? now name = store.shelf.live? now name := by
  apply separate.others.live
  intro party member concerns
  apply elsewhere
  simp only [List.mem_cons, List.not_mem_nil, or_false] at member ⊢
  rcases member with rfl | rfl
  · rcases concerns with message | attempts
    · exact .inl message
    · exact .inr (.inl attempts)
  · rcases concerns with message | attempts
    · exact .inr (.inr (.inl message))
    · exact .inr (.inr (.inr attempts))

theorem Party.retrieve_after {first second : Party} {now : Instant} {store : Backend} {keyText otherText : String}
    {result outcome : Except Fault (Outcome String)} (undisputed : store.Undisputed) (apart : first.id ≠ second.id)
    (accepted : keyOf first.id keyText = .ok first.key) (admitted : keyOf second.id otherText = .ok second.key)
    (finished : (first.whole now store).result = .ended result)
    (done : (second.whole now store).result = .ended outcome) :
    let before := first.service.retrieve Backend.interface now first.id keyText store
    let after := second.service.retrieve Backend.interface now second.id otherText before.state
    before.result = result ∧ after.result = outcome ∧ Merged [first, second] now store after.state := by
  intro before after
  have ran : before = ⟨(first.whole now store).result.result, (first.whole now store).state,
      (first.whole now store).log⟩ := Service.retrieve_accepted accepted store
  have followed : after = ⟨(second.whole now before.state).result.result, (second.whole now before.state).state,
      (second.whole now before.state).log⟩ := Service.retrieve_accepted admitted before.state
  obtain ⟨same, merged⟩ := @Party.whole_after first second now store undisputed apart
  rw [followed, ran]
  dsimp only
  rw [finished, same, done]
  exact ⟨rfl, rfl, merged⟩

/-- Two retrievals of different messages, whose calls come in any order, end as they would one after the other, in
either order, and leave the same behind; each ends within four calls of its own. No other live entry is touched. -/
theorem retrieve_interleaved {ρ : Type} {service rival : Service} {id other keyText otherText : String}
    {key otherKey : Bytes} (now : Instant) {store : Backend} (undisputed : store.Undisputed)
    (accepted : keyOf id keyText = .ok key) (admitted : keyOf other otherText = .ok otherKey) (apart : id ≠ other)
    (callers : List Nat) :
    let beginnings : List (Event ρ) := [⟨now, .retrieve service id keyText⟩, ⟨now, .retrieve rival other otherText⟩]
    let traffic := (Traffic.begin store).run Backend.interface (beginnings ++ taking now callers)
    let ended (first second : Except Fault (Outcome String)) : Prop :=
      traffic.operations = [.retrieval service id key (.ended first), .retrieval rival other otherKey (.ended second)]
    let one := service.retrieve Backend.interface now id keyText
    let two := rival.retrieve Backend.interface now other otherText
    (4 ≤ callers.count 0 → 4 ≤ callers.count 1 → ∃ first second, ended first second) ∧
    (∀ first second, ended first second →
      ((one store).result = first ∧ (two (one store).state).result = second ∧
        Alike now traffic.store.store.shelf (two (one store).state).state.shelf) ∧
      (two store).result = second ∧ (one (two store).state).result = first ∧
        Alike now traffic.store.store.shelf (one (two store).state).state.shelf) ∧
    ∀ name, name ∉ [Key.message id, Key.attempts id, Key.message other, Key.attempts other] →
      traffic.store.store.shelf.live? now name = store.shelf.live? now name := by
  intro beginnings traffic ended one two
  let first : Party := ⟨service, id, key⟩
  let second : Party := ⟨rival, other, otherKey⟩
  have separate : traffic.Separate [first, second] now store callers :=
    @Traffic.Separate.of_retrieves ρ first second keyText otherText now store undisputed
      accepted admitted apart callers
  refine ⟨?_, ?_, ?_⟩
  · intro enough plenty
    obtain ⟨result, finished⟩ := first.alone_ended now store enough
    obtain ⟨outcome, done⟩ := second.alone_ended now store plenty
    have operations := separate.operations_eq
    rw [finished, done] at operations
    exact ⟨result, outcome, operations⟩
  · intro result outcome both
    obtain ⟨firstAlone, secondAlone, merged⟩ := separate.both_ended both
    obtain ⟨ahead, follows, forward⟩ := @Party.retrieve_after first second now store keyText otherText result outcome
      undisputed apart accepted admitted firstAlone secondAlone
    obtain ⟨behind, precedes, backward⟩ :=
      @Party.retrieve_after second first now store otherText keyText outcome result undisputed apart.symm admitted
        accepted secondAlone firstAlone
    exact ⟨⟨ahead, follows, merged.alike forward⟩, behind, precedes, merged.alike backward.swap⟩
  · intro name elsewhere
    exact separate.live_elsewhere elsewhere

/-- The id of one message may be the key under which another is kept. -/
theorem retrieve_interleaved_nested :
    let service : Service := ⟨7 * Duration.day, 3, 64⟩
    let store : Backend := .table ⟨Shelf.empty.insert (Key.message "a") ⟨"no envelope", some 1⟩, .ready, 0⟩
    let key : Bytes := List.replicate 32 1
    let beginnings : List (Event Unit) :=
      [⟨0, .retrieve service "a" (Base64.encode key)⟩, ⟨0, .retrieve service (Key.message "a") (Base64.encode key)⟩]
    let traffic := (Traffic.begin store).run Backend.interface (beginnings ++ taking 0 [0, 1, 1, 0, 1, 0, 0, 1])
    let one := service.retrieve Backend.interface 0 "a" (Base64.encode key)
    let two := service.retrieve Backend.interface 0 (Key.message "a") (Base64.encode key)
    "a" ≠ Key.message "a" ∧ ∃ first second,
      traffic.operations =
        [.retrieval service "a" key (.ended first), .retrieval service (Key.message "a") key (.ended second)] ∧
      (one store).result = first ∧ (two (one store).state).result = second ∧
        Alike 0 traffic.store.store.shelf (two (one store).state).state.shelf := by
  have apart : "a" ≠ Key.message "a" := by decide
  have accepted : keyOf "a" (Base64.encode (List.replicate 32 1)) = .ok (List.replicate 32 1) := by rfl
  have admitted : keyOf (Key.message "a") (Base64.encode (List.replicate 32 1)) = .ok (List.replicate 32 1) := by rfl
  have general := @retrieve_interleaved Unit ⟨7 * Duration.day, 3, 64⟩ ⟨7 * Duration.day, 3, 64⟩ _ _ _ _ _ _ 0
    (.table ⟨Shelf.empty.insert (Key.message "a") ⟨"no envelope", some 1⟩, .ready, 0⟩)
    Nat.zero_lt_two accepted admitted apart [0, 1, 1, 0, 1, 0, 0, 1]
  dsimp only at general ⊢
  obtain ⟨enough, same, _⟩ := general
  obtain ⟨first, second, ended⟩ := enough (by decide) (by decide)
  exact ⟨apart, first, second, ended, (same first second ended).1⟩

end ReadOnce.Message
