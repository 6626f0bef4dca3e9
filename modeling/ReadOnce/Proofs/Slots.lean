import Mathlib.Data.List.Nodup
import ReadOnce.Broker.Dispatcher

/-!
The slots of a dispatcher. Each slot is free or held, by a request that runs or by one that was given it and is about
to start; and requests start in the order in which they came. A dispatcher that is told to stop waits for those that
run, which is not to wait for those that start after them.
-/
namespace ReadOnce.Broker.Dispatcher

/-- The requests that have not started, in the order in which they will: those that were given a slot come first. -/
def waiting (dispatcher : Dispatcher) : List Job := dispatcher.granted ++ dispatcher.parked

/-- Every slot is free or held by one request. -/
def Balanced (dispatcher : Dispatcher) : Prop :=
  dispatcher.free + dispatcher.inFlight + dispatcher.granted.length = dispatcher.capacity

variable {dispatcher : Dispatcher}

theorem balanced_ofCapacity {slots : Int} (opened : ofCapacity slots = .ok dispatcher) : dispatcher.Balanced := by
  unfold ofCapacity at opened
  split at opened
  · cases opened
  · cases opened
    rfl

theorem grant_cases (dispatcher : Dispatcher) :
    dispatcher.grant = dispatcher ∨
      ∃ job rest, dispatcher.parked = job :: rest ∧ dispatcher.free ≠ 0 ∧
        dispatcher.grant = { dispatcher with
          free := dispatcher.free - 1
          parked := rest
          granted := dispatcher.granted ++ [job] } := by
  unfold grant
  split
  · exact .inl rfl
  · next job rest parked =>
    split
    · exact .inl rfl
    · next some_free => exact .inr ⟨job, rest, parked, some_free, rfl⟩

@[simp] theorem running_grant (dispatcher : Dispatcher) : dispatcher.grant.running = dispatcher.running := by
  rcases grant_cases dispatcher with same | ⟨job, rest, _, _, same⟩ <;> rw [same]

@[simp] theorem attempts_grant (dispatcher : Dispatcher) : dispatcher.grant.attempts = dispatcher.attempts := by
  rcases grant_cases dispatcher with same | ⟨job, rest, _, _, same⟩ <;> rw [same]

@[simp] theorem delivered_grant (dispatcher : Dispatcher) : dispatcher.grant.delivered = dispatcher.delivered := by
  rcases grant_cases dispatcher with same | ⟨job, rest, _, _, same⟩ <;> rw [same]

@[simp] theorem capacity_grant (dispatcher : Dispatcher) : dispatcher.grant.capacity = dispatcher.capacity := by
  rcases grant_cases dispatcher with same | ⟨job, rest, _, _, same⟩ <;> rw [same]

@[simp] theorem awaited_grant (dispatcher : Dispatcher) : dispatcher.grant.awaited = dispatcher.awaited := by
  rcases grant_cases dispatcher with same | ⟨job, rest, _, _, same⟩ <;> rw [same]

@[simp] theorem waiting_grant (dispatcher : Dispatcher) : dispatcher.grant.waiting = dispatcher.waiting := by
  rcases grant_cases dispatcher with same | ⟨job, rest, parked, _, same⟩
  · rw [same]
  · simp [same, waiting, parked]

theorem Balanced.grant (balanced : dispatcher.Balanced) : dispatcher.grant.Balanced := by
  rcases grant_cases dispatcher with same | ⟨job, rest, _, some_free, same⟩
  · rwa [same]
  · simp only [Balanced, inFlight] at balanced
    simp only [Balanced, inFlight, same, List.length_append, List.length_singleton]
    omega

/-- A request that comes is the last in the queue; it starts at once only if it is the first, too. -/
theorem deliver_queue (dispatcher : Dispatcher) (request : Request) :
    ∃ begun, (dispatcher.deliver request).running = dispatcher.running ++ begun ∧
      begun ++ (dispatcher.deliver request).waiting = dispatcher.waiting ++ [⟨dispatcher.delivered, request⟩] := by
  unfold deliver
  dsimp only
  split
  · exact ⟨[], by simp, by simp [waiting]⟩
  · next open_slot =>
    obtain ⟨_, parked, granted⟩ : dispatcher.free ≠ 0 ∧ dispatcher.parked = [] ∧ dispatcher.granted = [] := by
      simpa only [not_or, ne_eq, Decidable.not_not] using open_slot
    exact ⟨[⟨dispatcher.delivered, request⟩], rfl, by simp [waiting, parked, granted]⟩

@[simp] theorem delivered_deliver (dispatcher : Dispatcher) (request : Request) :
    (dispatcher.deliver request).delivered = dispatcher.delivered + 1 := by
  unfold deliver
  dsimp only
  split <;> rfl

@[simp] theorem capacity_deliver (dispatcher : Dispatcher) (request : Request) :
    (dispatcher.deliver request).capacity = dispatcher.capacity := by
  unfold deliver
  dsimp only
  split <;> rfl

@[simp] theorem attempts_deliver (dispatcher : Dispatcher) (request : Request) :
    (dispatcher.deliver request).attempts = dispatcher.attempts := by
  unfold deliver
  dsimp only
  split <;> rfl

theorem Balanced.deliver (balanced : dispatcher.Balanced) (request : Request) :
    (dispatcher.deliver request).Balanced := by
  unfold Dispatcher.deliver
  dsimp only
  split
  · exact balanced
  · next open_slot =>
    have some_free : dispatcher.free ≠ 0 := fun none => open_slot (.inl none)
    simp only [Balanced, inFlight] at balanced
    simp only [Balanced, inFlight, List.length_append, List.length_singleton]
    omega

theorem resume_queue (dispatcher : Dispatcher) :
    ∃ begun, dispatcher.resume.running = dispatcher.running ++ begun ∧
      begun ++ dispatcher.resume.waiting = dispatcher.waiting := by
  unfold resume
  split
  · exact ⟨[], by simp, rfl⟩
  · next job rest granted =>
    refine ⟨[job], by rw [running_grant], ?_⟩
    rw [waiting_grant]
    simp [waiting, granted]

@[simp] theorem delivered_resume (dispatcher : Dispatcher) : dispatcher.resume.delivered = dispatcher.delivered := by
  unfold resume
  split
  · rfl
  · rw [delivered_grant]

@[simp] theorem capacity_resume (dispatcher : Dispatcher) : dispatcher.resume.capacity = dispatcher.capacity := by
  unfold resume
  split
  · rfl
  · rw [capacity_grant]

@[simp] theorem attempts_resume (dispatcher : Dispatcher) : dispatcher.resume.attempts = dispatcher.attempts := by
  unfold resume
  split
  · rfl
  · rw [attempts_grant]

theorem Balanced.resume (balanced : dispatcher.Balanced) : dispatcher.resume.Balanced := by
  unfold Dispatcher.resume
  split
  · exact balanced
  · next job rest granted =>
    apply Balanced.grant
    simp only [Balanced, inFlight, granted, List.length_cons] at balanced
    simp only [Balanced, inFlight, List.length_append, List.length_singleton]
    omega

theorem finish_running {number : Nat} {job : Job} (reply : Option String)
    (found : dispatcher.running.find? (·.number = number) = some job) :
    (dispatcher.finish number reply).running = dispatcher.running.filter (·.number ≠ number) ∧
      (dispatcher.finish number reply).attempts = dispatcher.attempts ++ attempts? job reply := by
  simp only [finish, found, running_grant, attempts_grant, and_self]

@[simp] theorem waiting_finish (dispatcher : Dispatcher) (number : Nat) (reply : Option String) :
    (dispatcher.finish number reply).waiting = dispatcher.waiting := by
  unfold finish
  split
  · rfl
  · rw [waiting_grant]
    rfl

@[simp] theorem delivered_finish (dispatcher : Dispatcher) (number : Nat) (reply : Option String) :
    (dispatcher.finish number reply).delivered = dispatcher.delivered := by
  unfold finish
  split
  · rfl
  · rw [delivered_grant]

@[simp] theorem capacity_finish (dispatcher : Dispatcher) (number : Nat) (reply : Option String) :
    (dispatcher.finish number reply).capacity = dispatcher.capacity := by
  unfold finish
  split
  · rfl
  · rw [capacity_grant]

theorem length_filter_number {jobs : List Job} {number : Nat} {job : Job} (distinct : (jobs.map (·.number)).Nodup)
    (found : jobs.find? (·.number = number) = some job) :
    (jobs.filter (·.number ≠ number)).length + 1 = jobs.length := by
  have same : job.number = number := by simpa using List.find?_some found
  have member : number ∈ jobs.map (·.number) := same ▸ List.mem_map_of_mem (List.mem_of_find?_eq_some found)
  have once : jobs.countP (·.number = number) = 1 := by
    have counted := List.count_eq_one_of_mem distinct member
    rw [List.count, List.countP_map] at counted
    exact counted
  have split := List.length_eq_countP_add_countP (fun job : Job => decide (job.number = number)) (l := jobs)
  rw [once] at split
  rw [← List.countP_eq_length_filter, split, Nat.add_comm]
  simp

/-- Answering a request frees one slot, because no two requests that run have the same number. -/
theorem Balanced.finish (balanced : dispatcher.Balanced) (distinct : (dispatcher.running.map (·.number)).Nodup)
    (number : Nat) (reply : Option String) : (dispatcher.finish number reply).Balanced := by
  unfold Dispatcher.finish
  split
  · exact balanced
  · next job found =>
    -- the slot that is freed may go to the next request at once
    apply Balanced.grant
    have left := length_filter_number distinct found
    simp only [Balanced, inFlight] at balanced
    simp only [Balanced, inFlight]
    omega

/-- No event makes slots or takes them away. -/
theorem capacity_run (dispatcher : Dispatcher) (events : List Event) :
    (dispatcher.run events).capacity = dispatcher.capacity := by
  induction events generalizing dispatcher with
  | nil => rfl
  | cons event rest ih =>
    refine (ih (dispatcher.step event)).trans ?_
    cases event with
    | deliver request => exact capacity_deliver dispatcher request
    | resume => exact capacity_resume dispatcher
    | finish number reply => exact capacity_finish dispatcher number reply
    | stop => rfl

/-- Whether an event is one of those that go on while the dispatcher stops: no request comes any more. -/
def Event.settles : Event → Bool
  | .resume | .finish _ _ => true
  | .deliver _ | .stop => false

/-- From then on requests only start or are answered. -/
theorem step_settles {event : Event} (settles : event.settles = true) (dispatcher : Dispatcher) :
    (dispatcher.step event).awaited = dispatcher.awaited ∧
      ((dispatcher.step event).running ++ (dispatcher.step event).waiting).Sublist
        (dispatcher.running ++ dispatcher.waiting) ∧
      (dispatcher.step event).waiting.Sublist dispatcher.waiting := by
  cases event with
  | deliver request | stop => cases settles
  | resume =>
    obtain ⟨begun, ran, waited⟩ := dispatcher.resume_queue
    refine ⟨?_, ?_, ?_⟩
    · simp only [step, resume]
      split
      · rfl
      · rw [awaited_grant]
    · simp only [step, ran, List.append_assoc, waited, List.Sublist.refl]
    · exact waited ▸ List.sublist_append_right begun _
  | finish number reply =>
    refine ⟨?_, ?_, ?_⟩
    · simp only [step, finish]
      split
      · rfl
      · rw [awaited_grant]
    · simp only [step, waiting_finish]
      refine List.Sublist.append ?_ (List.Sublist.refl _)
      unfold finish
      split
      · exact List.Sublist.refl _
      · rw [running_grant]
        exact List.filter_sublist
    · simp only [step, waiting_finish, List.Sublist.refl]

theorem run_settles {events : List Event} (settle : ∀ event ∈ events, event.settles = true) (dispatcher : Dispatcher) :
    (dispatcher.run events).awaited = dispatcher.awaited ∧
      ((dispatcher.run events).running ++ (dispatcher.run events).waiting).Sublist
        (dispatcher.running ++ dispatcher.waiting) ∧
      (dispatcher.run events).waiting.Sublist dispatcher.waiting := by
  induction events generalizing dispatcher with
  | nil => exact ⟨rfl, List.Sublist.refl _, List.Sublist.refl _⟩
  | cons event rest ih =>
    obtain ⟨first, all, waiting⟩ := step_settles (settle event List.mem_cons_self) dispatcher
    obtain ⟨later, allRest, waitingRest⟩ :=
      ih (fun other member => settle other (List.mem_cons_of_mem event member)) (dispatcher.step event)
    exact ⟨later.trans first, allRest.trans all, waitingRest.trans waiting⟩

/-- A dispatcher that has stopped has answered all requests but those that waited when it was told to. -/
theorem waiting_of_hasStopped {events : List Event} (settle : ∀ event ∈ events, event.settles = true)
    (stopped : (dispatcher.stop.run events).hasStopped = true) :
    ∀ job ∈ (dispatcher.stop.run events).running ++ (dispatcher.stop.run events).waiting,
      job ∈ dispatcher.waiting := by
  obtain ⟨same, all, waiting⟩ := run_settles settle dispatcher.stop
  have awaited : (dispatcher.stop.run events).awaited = some (dispatcher.running.map (·.number)) := same
  intro job member
  rcases List.mem_append.mp member with running | waits
  · rcases List.mem_append.mp (all.subset member) with before | waited
    · simp only [hasStopped, awaited, List.all_eq_true] at stopped
      have answered := stopped job running
      have asked : (dispatcher.running.map (·.number)).contains job.number = true :=
        List.contains_iff_mem.mpr (List.mem_map_of_mem before)
      rw [asked] at answered
      cases answered
    · exact waited
  · exact waiting.subset waits

theorem idle_of_hasStopped {events : List Event} (settle : ∀ event ∈ events, event.settles = true)
    (none : dispatcher.waiting = []) (stopped : (dispatcher.stop.run events).hasStopped = true) :
    (dispatcher.stop.run events).inFlight = 0 ∧ (dispatcher.stop.run events).waiting = [] := by
  have left := waiting_of_hasStopped settle stopped
  rw [none] at left
  obtain ⟨running, waiting⟩ := List.append_eq_nil_iff.mp (List.eq_nil_iff_forall_not_mem.mpr fun job member =>
    List.not_mem_nil (left job member))
  exact ⟨List.length_eq_zero_iff.mpr running, waiting⟩

/-- A request that waited for a slot starts when the one that was waited for ends: the dispatcher has stopped, and a
request runs. -/
theorem hasStopped_running :
    ∃ dispatcher, ofCapacity 1 = .ok dispatcher ∧
      let first := dispatcher.run [.deliver ⟨.save, "a", []⟩, .deliver ⟨.receive, "b", []⟩]
      let last := first.stop.run [.finish 0 none, .resume]
      last.hasStopped = true ∧ last.inFlight = 1 :=
  ⟨_, rfl, rfl, rfl⟩

end ReadOnce.Broker.Dispatcher
