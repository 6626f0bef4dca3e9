import ReadOnce.Proofs.Desk
import ReadOnce.Proofs.Slots

/-!
Requests served side by side. Every request that has started has a task, and the tasks take turns: a task looks at the
address, calls the handler, hands the reply to the bus once the handler has ended, and gives its slot back when the bus
is done with the reply, whether it took it or not. After each of these steps any other task may go on, a request may
come, or one that waited may start. How handlers end is not said: with any reply, or by raising anything.
-/
namespace ReadOnce.Broker

/-- How far the task of a request has come; handlers raise what `ε` holds. -/
inductive Stage (ε : Type) where
  /-- It has not done anything yet. -/
  | created
  /-- There is no address to reply to, and nothing is left to do. -/
  | dropped
  /-- The handler was called. -/
  | handling
  /-- The handler ended, and the reply was handed to the bus. -/
  | replied (outcome : Except ε String)

/-- A dispatcher with the tasks of its requests, and what has happened so far, by the numbers of requests. -/
structure Floor (ε : Type) where
  dispatcher : Dispatcher
  stage : Nat → Stage ε
  /-- The requests that came; each has its place in this list as its number. -/
  requests : List Request
  started : List Nat
  /-- The requests whose handlers were called. -/
  called : List Nat
  /-- The replies that were handed to the bus. -/
  published : List Attempt
  finished : List Nat
  log : Log

/-- What happens next. What does not apply to the request of a number leaves everything as it is. -/
inductive Occurrence (ε : Type) where
  | deliver (request : Request)
  | resume
  /-- The task of a request takes its first step. -/
  | start (number : Nat)
  | answer (number : Nat) (outcome : Except ε String)
  /-- The bus is done with the reply, and the task ends. -/
  | finish (number : Nat) (taken : Bool)
  | stop

/-- The request that comes. -/
def Occurrence.request? {ε : Type} : Occurrence ε → Option Request
  | .deliver request => some request
  | _ => none

namespace Floor

variable {ε : Type}

def ofDispatcher (dispatcher : Dispatcher) : Floor ε := ⟨dispatcher, fun _ => .created, [], [], [], [], [], []⟩

/-- The request of a number, while its task runs. -/
def job? (number : Nat) (floor : Floor ε) : Option Job := floor.dispatcher.running.find? (·.number = number)

/-- What was handed to the bus for a request. -/
def repliesTo (number : Nat) (floor : Floor ε) : List Attempt := floor.published.filter (·.number = number)

/-- The dispatcher goes on: what runs now behind all that ran before has been started. -/
def move (after : Dispatcher) (floor : Floor ε) : Floor ε :=
  { floor with
    dispatcher := after
    started := floor.started ++ (after.running.drop floor.dispatcher.running.length).map (·.number) }

def enter (number : Nat) (stage : Stage ε) (floor : Floor ε) : Floor ε :=
  { floor with stage := fun other => if other = number then stage else floor.stage other }

def deliver (request : Request) (floor : Floor ε) : Floor ε :=
  { floor.move (floor.dispatcher.deliver request) with requests := floor.requests ++ [request] }

/-- The task looks at the address: without one the request is dropped, else its handler is called. -/
def start (number : Nat) (floor : Floor ε) : Floor ε :=
  match floor.job? number, floor.stage number with
  | some job, .created =>
    if job.request.address.isEmpty then
      { floor.enter number .dropped with
        log := floor.log ++
          say .warning ("No reply address provided on " ++ job.request.subject.name ++ ", dropping request") }
    else { floor.enter number .handling with called := floor.called ++ [number] }
  | _, _ => floor

/-- The handler ends, and its reply is handed to the bus; where it raised something, the reply says no more than so. -/
def answer (number : Nat) (outcome : Except ε String) (floor : Floor ε) : Floor ε :=
  match floor.job? number, floor.stage number with
  | some job, .handling =>
    { floor.enter number (.replied outcome) with
      published := floor.published ++ Dispatcher.attempts? job outcome.toOption
      log := floor.log ++ match outcome with
        | .ok _ => []
        | .error _ => say .error ("Unexpected error handling " ++ job.request.subject.name) }
  | _, _ => floor

def finish (number : Nat) (taken : Bool) (floor : Floor ε) : Floor ε :=
  match floor.job? number, floor.stage number with
  | some _, .dropped =>
    { floor with
      dispatcher := floor.dispatcher.finish number none
      finished := floor.finished ++ [number] }
  | some job, .replied outcome =>
    { floor with
      dispatcher := floor.dispatcher.finish number outcome.toOption
      finished := floor.finished ++ [number]
      log := floor.log ++
        if taken then [] else (Dispatcher.attempts? job outcome.toOption).flatMap Attempt.lost }
  | _, _ => floor

def step (floor : Floor ε) : Occurrence ε → Floor ε
  | .deliver request => floor.deliver request
  | .resume => floor.move floor.dispatcher.resume
  | .start number => floor.start number
  | .answer number outcome => floor.answer number outcome
  | .finish number taken => floor.finish number taken
  | .stop => { floor with dispatcher := floor.dispatcher.stop }

def run (floor : Floor ε) (occurrences : List (Occurrence ε)) : Floor ε := occurrences.foldl step floor

/-- What has been done for a request, by the stage of its task. -/
inductive Served (floor : Floor ε) (number : Nat) : Prop where
  | created (stage : floor.stage number = .created) (uncalled : number ∉ floor.called)
      (unpublished : floor.repliesTo number = []) (unfinished : number ∉ floor.finished)
  | dropped {request : Request} (asked : floor.requests[number]? = some request)
      (silent : request.address.isEmpty = true) (stage : floor.stage number = .dropped)
      (uncalled : number ∉ floor.called) (unpublished : floor.repliesTo number = [])
  | handling {request : Request} (asked : floor.requests[number]? = some request)
      (addressed : request.address.isEmpty = false) (stage : floor.stage number = .handling)
      (unpublished : floor.repliesTo number = []) (unfinished : number ∉ floor.finished)
  | replied {request : Request} {outcome : Except ε String} (asked : floor.requests[number]? = some request)
      (addressed : request.address.isEmpty = false) (stage : floor.stage number = .replied outcome)
      (published : floor.repliesTo number =
        [⟨number, request.address, outcome.toOption.getD Reply.internal⟩])

theorem Served.congr {before after : Floor ε} {number : Nat} (served : before.Served number)
    (requests : ∀ request, before.requests[number]? = some request → after.requests[number]? = some request)
    (stage : after.stage number = before.stage number) (called : number ∈ after.called → number ∈ before.called)
    (published : after.repliesTo number = before.repliesTo number)
    (finished : number ∈ after.finished → number ∈ before.finished) : after.Served number := by
  cases served with
  | created here uncalled unpublished unfinished =>
    exact .created (stage.trans here) (uncalled ∘ called) (published.trans unpublished) (unfinished ∘ finished)
  | dropped asked silent here uncalled unpublished =>
    exact .dropped (requests _ asked) silent (stage.trans here) (uncalled ∘ called) (published.trans unpublished)
  | handling asked addressed here unpublished unfinished =>
    exact .handling (requests _ asked) addressed (stage.trans here) (published.trans unpublished)
      (unfinished ∘ finished)
  | replied asked addressed here told =>
    exact .replied (requests _ asked) addressed (stage.trans here) (published.trans told)

theorem stage_enter_self (number : Nat) (stage : Stage ε) (floor : Floor ε) :
    (floor.enter number stage).stage number = stage := if_pos rfl

theorem stage_enter_other {number other : Nat} (apart : other ≠ number) (stage : Stage ε) (floor : Floor ε) :
    (floor.enter number stage).stage other = floor.stage other := if_neg apart

/-- Slots are neither lost nor made, requests start in the order in which they came, those that run are the ones that
started and did not finish, and each is served as it should be. -/
structure Orderly (floor : Floor ε) : Prop where
  balanced : floor.dispatcher.Balanced
  delivered : floor.dispatcher.delivered = floor.requests.length
  queue : floor.started ++ floor.dispatcher.waiting.map (·.number) = List.range floor.requests.length
  running : floor.dispatcher.running.map (·.number) = floor.started.filter (· ∉ floor.finished)
  finished : ∀ number ∈ floor.finished, number ∈ floor.started
  known : ∀ job ∈ floor.dispatcher.running ++ floor.dispatcher.waiting,
    floor.requests[job.number]? = some job.request
  served : ∀ number, floor.Served number
  attempts : ∀ number, floor.dispatcher.attempts.filter (·.number = number) =
    if number ∈ floor.finished then floor.repliesTo number else []

variable {floor : Floor ε}

theorem orderly_ofDispatcher {slots : Int} {dispatcher : Dispatcher}
    (opened : Dispatcher.ofCapacity slots = .ok dispatcher) : (ofDispatcher dispatcher : Floor ε).Orderly := by
  have balanced := Dispatcher.balanced_ofCapacity opened
  unfold Dispatcher.ofCapacity at opened
  split at opened
  · cases opened
  · cases opened
    exact ⟨balanced, rfl, rfl, rfl, nofun, nofun, fun _ => .created rfl nofun rfl nofun, fun _ => rfl⟩

namespace Orderly

theorem nodup_started (orderly : floor.Orderly) : floor.started.Nodup :=
  (List.nodup_append.mp (orderly.queue ▸ List.nodup_range)).1

theorem nodup_running (orderly : floor.Orderly) : (floor.dispatcher.running.map (·.number)).Nodup :=
  orderly.running ▸ orderly.nodup_started.filter _

/-- A request whose task runs has come, has started, and is not finished. -/
theorem of_job? (orderly : floor.Orderly) {number : Nat} {job : Job} (found : floor.job? number = some job) :
    floor.requests[number]? = some job.request ∧ number ∈ floor.started ∧ number ∉ floor.finished := by
  have same : job.number = number := by simpa using List.find?_some found
  have member := List.mem_of_find?_eq_some found
  have listed : number ∈ floor.started.filter (· ∉ floor.finished) :=
    orderly.running ▸ same ▸ List.mem_map_of_mem member
  obtain ⟨inside, unfinished⟩ := List.mem_filter.mp listed
  exact ⟨same ▸ orderly.known job (List.mem_append_left _ member), inside, of_decide_eq_true unfinished⟩

/-- The dispatcher goes on, perhaps with a request that came: what it starts stood first in the queue. -/
theorem move (orderly : floor.Orderly) {after : Dispatcher} {requests : List Request} {added : List Job}
    (balanced : after.Balanced) (delivered : after.delivered = (floor.requests ++ requests).length)
    (attempts : after.attempts = floor.dispatcher.attempts)
    (numbered : List.range (floor.requests ++ requests).length =
      List.range floor.requests.length ++ added.map (·.number))
    (known : ∀ job ∈ added, (floor.requests ++ requests)[job.number]? = some job.request)
    (queue : ∃ begun, after.running = floor.dispatcher.running ++ begun ∧
      begun ++ after.waiting = floor.dispatcher.waiting ++ added) :
    Orderly { floor.move after with requests := floor.requests ++ requests } := by
  obtain ⟨begun, ran, waited⟩ := queue
  have more : (after.running.drop floor.dispatcher.running.length).map (·.number) = begun.map (·.number) := by
    rw [ran, List.drop_left]
  have order : floor.started ++ begun.map (·.number) ++ after.waiting.map (·.number) =
      List.range (floor.requests ++ requests).length := by
    rw [List.append_assoc, ← List.map_append, waited, List.map_append, ← List.append_assoc, orderly.queue, numbered]
  -- what starts stood in the queue, and no number is both there and among those that have started
  have apart : ∀ number ∈ begun.map (·.number), number ∉ floor.finished := by
    intro number member done
    have distinct := (List.nodup_append.mp (order ▸ List.nodup_range)).1
    exact (List.nodup_append.mp distinct).2.2 number (orderly.finished number done) number member rfl
  have earlier {number : Nat} {request : Request} (asked : floor.requests[number]? = some request) :
      (floor.requests ++ requests)[number]? = some request := by
    rw [List.getElem?_append_left (List.getElem?_eq_some_iff.mp asked).1, asked]
  refine ⟨balanced, delivered, ?_, ?_, ?_, ?_, ?_, ?_⟩
  · simp only [Floor.move, more, order]
  · simp only [Floor.move, more]
    rw [ran, List.map_append, orderly.running, List.filter_append]
    congr 1
    exact (List.filter_eq_self.mpr fun number member => decide_eq_true (apart number member)).symm
  · intro number done
    exact List.mem_append_left _ (orderly.finished number done)
  · intro job member
    dsimp only [Floor.move] at member ⊢
    rw [ran, List.append_assoc, waited, ← List.append_assoc] at member
    rcases List.mem_append.mp member with old | new
    · exact earlier (orderly.known job old)
    · exact known job new
  · intro number
    exact (orderly.served number).congr (fun _ => earlier) rfl id rfl id
  · intro number
    exact (congrArg (List.filter _) attempts).trans (orderly.attempts number)

theorem deliver (orderly : floor.Orderly) (request : Request) : (floor.deliver request).Orderly := by
  have queue := floor.dispatcher.deliver_queue request
  rw [orderly.delivered] at queue
  refine orderly.move (orderly.balanced.deliver request) ?_ (Dispatcher.attempts_deliver _ _) ?_ ?_ queue
  · rw [Dispatcher.delivered_deliver, orderly.delivered, List.length_append, List.length_singleton]
  · rw [List.length_append, List.length_singleton, List.range_succ]
    rfl
  · intro job member
    rw [List.mem_singleton.mp member]
    exact List.getElem?_concat_length

theorem resume (orderly : floor.Orderly) : (floor.move floor.dispatcher.resume).Orderly := by
  have moved := @Orderly.move ε floor orderly floor.dispatcher.resume [] [] orderly.balanced.resume
  simp only [List.append_nil, List.map_nil] at moved
  exact moved (by rw [Dispatcher.delivered_resume, orderly.delivered]) (Dispatcher.attempts_resume _) trivial nofun
    floor.dispatcher.resume_queue

/-- A task takes a step of its own: no other request is concerned, and no slot changes hands. -/
theorem enter (orderly : floor.Orderly) {number : Nat} {stage : Stage ε} {called : List Nat}
    {published : List Attempt} {log : Log} (unfinished : number ∉ floor.finished)
    (others : ∀ other, other ≠ number → (other ∈ called → other ∈ floor.called) ∧
      published.filter (·.number = other) = floor.repliesTo other)
    (here : Served { floor.enter number stage with called, published, log } number) :
    Orderly { floor.enter number stage with called, published, log } where
  balanced := orderly.balanced
  delivered := orderly.delivered
  queue := orderly.queue
  running := orderly.running
  finished := orderly.finished
  known := orderly.known
  served other := by
    by_cases same : other = number
    · rw [same]
      exact here
    · obtain ⟨called, published⟩ := others other same
      exact (orderly.served other).congr (fun _ => id) (stage_enter_other same stage floor) called published id
  attempts other := by
    refine (orderly.attempts other).trans ?_
    by_cases same : other = number
    · rw [same, if_neg unfinished]
      exact (if_neg unfinished).symm
    · exact congrArg (ite _ · _) (others other same).2.symm

theorem of_created (orderly : floor.Orderly) {number : Nat} (stage : floor.stage number = .created) :
    number ∉ floor.called ∧ floor.repliesTo number = [] := by
  cases orderly.served number with
  | created _ uncalled unpublished _ => exact ⟨uncalled, unpublished⟩
  | dropped _ _ other | handling _ _ other | replied _ _ other =>
    rw [stage] at other
    cases other

theorem of_handling (orderly : floor.Orderly) {number : Nat} {request : Request}
    (asked : floor.requests[number]? = some request) (stage : floor.stage number = .handling) :
    request.address.isEmpty = false ∧ floor.repliesTo number = [] := by
  cases orderly.served number with
  | handling found addressed _ unpublished =>
    cases asked.symm.trans found
    exact ⟨addressed, unpublished⟩
  | created other | dropped _ _ other | replied _ _ other =>
    rw [stage] at other
    cases other

theorem start (orderly : floor.Orderly) (number : Nat) : (floor.start number).Orderly := by
  unfold Floor.start
  split
  · next job found stage =>
    obtain ⟨asked, _, unfinished⟩ := orderly.of_job? found
    obtain ⟨uncalled, unpublished⟩ := orderly.of_created stage
    split
    · next silent =>
      refine orderly.enter unfinished (fun other _ => ⟨id, rfl⟩) ?_
      exact .dropped asked silent (stage_enter_self number _ floor) uncalled unpublished
    · next addressed =>
      refine orderly.enter unfinished (fun other apart => ⟨fun member => ?_, rfl⟩) ?_
      · rcases List.mem_append.mp member with earlier | last
        · exact earlier
        · exact absurd (List.mem_singleton.mp last) apart
      · exact .handling asked (Bool.eq_false_iff.mpr addressed)
          (stage_enter_self number _ floor) unpublished unfinished
  · exact orderly

theorem answer (orderly : floor.Orderly) (number : Nat) (outcome : Except ε String) :
    (floor.answer number outcome).Orderly := by
  unfold Floor.answer
  split
  · next job found stage =>
    have same : job.number = number := by simpa using List.find?_some found
    obtain ⟨asked, _, unfinished⟩ := orderly.of_job? found
    obtain ⟨addressed, unpublished⟩ := orderly.of_handling asked stage
    have told : Dispatcher.attempts? job outcome.toOption =
        [⟨number, job.request.address, outcome.toOption.getD Reply.internal⟩] := by
      simp only [Dispatcher.attempts?, addressed, same, Bool.false_eq_true, if_false]
    refine orderly.enter unfinished (fun other apart => ⟨id, ?_⟩) ?_
    · rw [told, List.filter_append, repliesTo]
      simp [Ne.symm apart]
    · refine .replied asked addressed (stage_enter_self number _ floor) ?_
      simp only [repliesTo] at unpublished
      simp only [repliesTo, told, List.filter_append, unpublished]
      simp
  · exact orderly

private theorem running_release (orderly : floor.Orderly) {number : Nat} {job : Job}
    (found : floor.job? number = some job) (reply : Option String) :
    (floor.dispatcher.finish number reply).running.map (·.number) =
      floor.started.filter (· ∉ floor.finished ++ [number]) := by
  have kept : (floor.dispatcher.running.filter (·.number ≠ number)).map (·.number) =
      (floor.dispatcher.running.map (·.number)).filter (· ≠ number) := by
    rw [List.filter_map]
    rfl
  rw [(Dispatcher.finish_running reply found).1, kept, orderly.running, List.filter_filter]
  refine List.filter_congr fun other _ => ?_
  simp [and_comm, not_or]

private theorem attempts_release (orderly : floor.Orderly) {number : Nat} {job : Job}
    (found : floor.job? number = some job) {reply : Option String}
    (told : Dispatcher.attempts? job reply = floor.repliesTo number) (other : Nat) :
    (floor.dispatcher.finish number reply).attempts.filter (·.number = other) =
      if other ∈ floor.finished ++ [number] then floor.repliesTo other else [] := by
  have unfinished := (orderly.of_job? found).2.2
  rw [(Dispatcher.finish_running reply found).2, List.filter_append, orderly.attempts, told]
  by_cases same : other = number
  · simp only [same, unfinished, if_false, List.nil_append, List.mem_append, List.mem_singleton, or_true, if_true]
    exact List.filter_filter.trans (congrArg (List.filter · _) (by simp))
  · have apart : (floor.repliesTo number).filter (·.number = other) = [] := by
      refine List.filter_eq_nil_iff.mpr fun attempt member => ?_
      have mine := (List.mem_filter.mp member).2
      simp only [decide_eq_true_eq] at mine ⊢
      exact fun theirs => same (theirs.symm.trans mine)
    rw [apart, List.append_nil]
    simp only [List.mem_append, List.mem_singleton, same, or_false]

/-- A task that has nothing left to do ends. -/
theorem release (orderly : floor.Orderly) {number : Nat} {job : Job} (found : floor.job? number = some job)
    (reply : Option String) (log : Log) (told : Dispatcher.attempts? job reply = floor.repliesTo number)
    (here : ∀ after : Floor ε, after.requests = floor.requests → after.stage = floor.stage →
      after.called = floor.called → after.published = floor.published → after.Served number) :
    Orderly { floor with
      dispatcher := floor.dispatcher.finish number reply
      finished := floor.finished ++ [number]
      log } := by
  obtain ⟨_, inside, _⟩ := orderly.of_job? found
  refine ⟨orderly.balanced.finish orderly.nodup_running number reply, ?_, ?_, orderly.running_release found reply, ?_,
    ?_, ?_, orderly.attempts_release found told⟩
  · rw [Dispatcher.delivered_finish, orderly.delivered]
  · rw [Dispatcher.waiting_finish, orderly.queue]
  · intro other done
    rcases List.mem_append.mp done with earlier | last
    · exact orderly.finished other earlier
    · exact List.mem_singleton.mp last ▸ inside
  · intro other member
    rw [(Dispatcher.finish_running reply found).1, Dispatcher.waiting_finish] at member
    apply orderly.known other
    rcases List.mem_append.mp member with running | waiting
    · exact List.mem_append_left _ (List.mem_filter.mp running).1
    · exact List.mem_append_right _ waiting
  · intro other
    by_cases same : other = number
    · rw [same]
      exact here _ rfl rfl rfl rfl
    · refine (orderly.served other).congr (fun _ => id) rfl id rfl fun done => ?_
      rcases List.mem_append.mp done with earlier | last
      · exact earlier
      · exact absurd (List.mem_singleton.mp last) same

theorem finish (orderly : floor.Orderly) (number : Nat) (taken : Bool) : (floor.finish number taken).Orderly := by
  unfold Floor.finish
  split
  · next job found stage =>
    obtain ⟨requested, _⟩ := orderly.of_job? found
    cases orderly.served number with
    | dropped asked silent _ uncalled unpublished =>
      cases requested.symm.trans asked
      refine orderly.release found none floor.log ?_ fun after requests stages called published => ?_
      · rw [unpublished, Dispatcher.attempts?, if_pos silent]
      · exact .dropped (requests ▸ asked) silent (stages ▸ stage) (called ▸ uncalled)
          (by rw [repliesTo, published]; exact unpublished)
    | created other | handling _ _ other | replied _ _ other =>
      rw [stage] at other
      cases other
  · next job outcome found stage =>
    have mine : job.number = number := by simpa using List.find?_some found
    obtain ⟨requested, _⟩ := orderly.of_job? found
    cases orderly.served number with
    | replied asked addressed same told =>
      cases requested.symm.trans asked
      cases stage.symm.trans same
      refine orderly.release found outcome.toOption _ ?_ fun after requests stages called published => ?_
      · rw [told, Dispatcher.attempts?, addressed, if_neg Bool.false_ne_true, mine]
      · exact .replied (requests ▸ asked) addressed (stages ▸ same) (by rw [repliesTo, published]; exact told)
    | created other | dropped _ _ other | handling _ _ other =>
      rw [stage] at other
      cases other
  · exact orderly

theorem step (orderly : floor.Orderly) (occurrence : Occurrence ε) : (floor.step occurrence).Orderly := by
  cases occurrence with
  | deliver request => exact orderly.deliver request
  | resume => exact orderly.resume
  | start number => exact orderly.start number
  | answer number outcome => exact orderly.answer number outcome
  | finish number taken => exact orderly.finish number taken
  | stop =>
    obtain ⟨balanced, delivered, queue, running, finished, known, served, attempts⟩ := orderly
    exact ⟨balanced, delivered, queue, running, finished, known,
      fun number => (served number).congr (fun _ => id) rfl id rfl id, attempts⟩

theorem run (orderly : floor.Orderly) (occurrences : List (Occurrence ε)) : (floor.run occurrences).Orderly := by
  induction occurrences generalizing floor with
  | nil => exact orderly
  | cons occurrence rest ih => exact ih (orderly.step occurrence)

end Orderly

theorem step_dispatcher (floor : Floor ε) (occurrence : Occurrence ε) :
    ∃ events, (floor.step occurrence).dispatcher = floor.dispatcher.run events := by
  cases occurrence with
  | deliver request => exact ⟨[.deliver request], rfl⟩
  | resume => exact ⟨[.resume], rfl⟩
  | stop => exact ⟨[.stop], rfl⟩
  | start number | answer number _ =>
    refine ⟨[], ?_⟩
    simp only [step, start, answer]
    repeat' split
    all_goals rfl
  | finish number taken =>
    simp only [step, finish]
    split
    · exact ⟨[.finish number none], rfl⟩
    · next job outcome _ _ => exact ⟨[.finish number outcome.toOption], rfl⟩
    · exact ⟨[], rfl⟩

theorem run_dispatcher (floor : Floor ε) (occurrences : List (Occurrence ε)) :
    ∃ events, (floor.run occurrences).dispatcher = floor.dispatcher.run events := by
  induction occurrences generalizing floor with
  | nil => exact ⟨[], rfl⟩
  | cons occurrence rest ih =>
    obtain ⟨first, stepped⟩ := floor.step_dispatcher occurrence
    obtain ⟨others, ran⟩ := ih (floor.step occurrence)
    refine ⟨first ++ others, ran.trans ?_⟩
    rw [stepped, Dispatcher.run, Dispatcher.run, Dispatcher.run, List.foldl_append]

/-- The requests are those that were delivered, in the order in which they came. -/
theorem run_requests (floor : Floor ε) (occurrences : List (Occurrence ε)) :
    (floor.run occurrences).requests = floor.requests ++ occurrences.filterMap Occurrence.request? := by
  induction occurrences generalizing floor with
  | nil => exact (List.append_nil _).symm
  | cons occurrence rest ih =>
    refine (ih (floor.step occurrence)).trans ?_
    cases occurrence with
    | deliver request => exact List.append_assoc floor.requests [request] _
    | resume | stop => rfl
    | start number | answer number outcome | finish number taken =>
      refine congrArg (· ++ rest.filterMap Occurrence.request?) ?_
      simp only [step, start, answer, finish]
      repeat' split
      all_goals rfl

/-- A task replies only when its own handler ends, and with what that came to. -/
theorem step_replied {floor : Floor ε} {occurrence : Occurrence ε} {number : Nat} {outcome : Except ε String}
    (replied : (floor.step occurrence).stage number = .replied outcome) :
    floor.stage number = .replied outcome ∨ occurrence = .answer number outcome := by
  have entered {other : Nat} {stage : Stage ε} (here : (floor.enter other stage).stage number = .replied outcome) :
      floor.stage number = .replied outcome ∨ number = other ∧ stage = .replied outcome := by
    by_cases same : number = other
    · exact .inr ⟨same, by rwa [same, stage_enter_self] at here⟩
    · exact .inl (by rwa [stage_enter_other same] at here)
  cases occurrence with
  | deliver request | resume | stop => exact .inl replied
  | start other =>
    simp only [step, start] at replied
    split at replied
    · split at replied <;>
      · obtain here | ⟨_, differs⟩ := entered replied
        · exact .inl here
        · cases differs
    · exact .inl replied
  | answer other result =>
    simp only [step, answer] at replied
    split at replied
    · obtain here | ⟨rfl, same⟩ := entered replied
      · exact .inl here
      · cases same
        exact .inr rfl
    · exact .inl replied
  | finish other taken =>
    simp only [step, finish] at replied
    split at replied <;> exact .inl replied

theorem run_replied {floor : Floor ε} {occurrences : List (Occurrence ε)} {number : Nat} {outcome : Except ε String}
    (replied : (floor.run occurrences).stage number = .replied outcome) :
    floor.stage number = .replied outcome ∨ .answer number outcome ∈ occurrences := by
  induction occurrences generalizing floor with
  | nil => exact .inl replied
  | cons occurrence rest ih =>
    obtain here | later := ih replied
    · obtain earlier | same := step_replied here
      · exact .inl earlier
      · exact .inr (same ▸ List.mem_cons_self)
    · exact .inr (List.mem_cons_of_mem _ later)

/-- A task that is left alone with its handler comes to what answering its job comes to. -/
theorem run_answer {ρ σ : Type} {floor : Floor Message.Fault} {number : Nat} {job : Job}
    (found : floor.job? number = some job) (fresh : floor.stage number = .created) (service : Message.Service)
    (source : RandomSource ρ) (store : Store.KeyValueStore σ) (now : Instant) (state : ρ × σ) (taken : Bool) :
    let handled := Handler.answer job.request.subject service source store now job.request.body state
    (floor.run [.start number, .answer number handled.result, .finish number taken]).dispatcher =
      floor.dispatcher.finish number (job.answer service source store now state).result := by
  intro handled
  simp only [job?] at found
  simp only [run, List.foldl_cons, List.foldl_nil, step]
  by_cases silent : job.request.address.isEmpty = true
  · simp only [start, answer, finish, enter, job?, found, fresh, silent, if_true, Job.answer]
  · have replied : (job.answer service source store now state).result = handled.result.toOption :=
      (Job.answer_addressed (Bool.eq_false_iff.mpr silent) state).1
    simp only [start, answer, finish, enter, job?, found, fresh, silent, if_true,
      if_false, replied, Bool.false_eq_true]

theorem Served.of_silent {floor : Floor ε} {number : Nat} {request : Request} (served : floor.Served number)
    (asked : floor.requests[number]? = some request) (silent : request.address.isEmpty = true) :
    number ∉ floor.called ∧ floor.repliesTo number = [] := by
  cases served with
  | created _ uncalled unpublished _ | dropped _ _ _ uncalled unpublished => exact ⟨uncalled, unpublished⟩
  | handling found addressed | replied found addressed =>
    cases asked.symm.trans found
    exact absurd silent (Bool.eq_false_iff.mp addressed)

theorem Served.of_finished {floor : Floor ε} {number : Nat} {request : Request} (served : floor.Served number)
    (asked : floor.requests[number]? = some request) (addressed : request.address.isEmpty = false)
    (finished : number ∈ floor.finished) :
    ∃ outcome, floor.stage number = .replied outcome ∧
      floor.repliesTo number = [⟨number, request.address, outcome.toOption.getD Reply.internal⟩] := by
  cases served with
  | created _ _ _ unfinished | handling _ _ _ _ unfinished => exact absurd finished unfinished
  | dropped found silent =>
    cases asked.symm.trans found
    exact absurd silent (Bool.eq_false_iff.mp addressed)
  | replied found _ stage published =>
    cases asked.symm.trans found
    exact ⟨_, stage, published⟩

/-- Whatever comes, in whatever order: no more requests run than there are slots, and each slot is free, held by a
request that has started and is not finished, or given to one that is about to start. Requests are numbered as they
come, and none starts twice. One without an address is not handled and gets no reply. One with an address has been
replied to once when it is finished, at its address, with what its own handler said, or with an error where that raised
something; and the dispatcher has it on record so. -/
theorem run_served {slots : Int} (least : 1 ≤ slots) :
    ∃ dispatcher, Dispatcher.ofCapacity slots = .ok dispatcher ∧
      ∀ occurrences : List (Occurrence ε),
        let floor := (ofDispatcher dispatcher).run occurrences
        let unfinished := floor.started.filter (· ∉ floor.finished)
        floor.dispatcher.inFlight = unfinished.length ∧ (floor.dispatcher.inFlight : Int) ≤ slots ∧
          (floor.dispatcher.free + unfinished.length + floor.dispatcher.granted.length : Int) = slots ∧
          floor.started.Nodup ∧
          ∀ number request, (occurrences.filterMap Occurrence.request?)[number]? = some request →
            (request.address.isEmpty = true → number ∉ floor.called ∧ floor.repliesTo number = []) ∧
            (request.address.isEmpty = false → number ∈ floor.finished →
              ∃ outcome, .answer number outcome ∈ occurrences ∧
                floor.repliesTo number = [⟨number, request.address, outcome.toOption.getD Reply.internal⟩] ∧
                floor.dispatcher.attempts.filter (·.number = number) = floor.repliesTo number) := by
  have positive : ¬ slots < 0 := by omega
  refine ⟨_, if_neg positive, fun occurrences => ?_⟩
  intro floor unfinished
  have orderly : floor.Orderly := (orderly_ofDispatcher (if_neg positive)).run occurrences
  have busy : floor.dispatcher.inFlight = unfinished.length := by
    rw [Dispatcher.inFlight, ← List.length_map (·.number), orderly.running]
  have capacity : (floor.dispatcher.capacity : Int) = slots := by
    obtain ⟨events, ran⟩ := (ofDispatcher _ : Floor ε).run_dispatcher occurrences
    rw [ran, Dispatcher.capacity_run]
    exact Int.toNat_of_nonneg (by omega)
  have balanced := orderly.balanced
  unfold Dispatcher.Balanced at balanced
  refine ⟨busy, by omega, by omega, orderly.nodup_started, fun number request came => ?_⟩
  have asked : floor.requests[number]? = some request := by
    rw [run_requests]
    exact came
  refine ⟨?_, ?_⟩
  · exact (orderly.served number).of_silent asked
  · intro addressed finished
    obtain ⟨outcome, stage, published⟩ := (orderly.served number).of_finished asked addressed finished
    obtain fresh | answered := run_replied stage
    · cases fresh
    · exact ⟨outcome, answered, published, (orderly.attempts number).trans (if_pos finished)⟩

/-- One slot for three requests: the handler of the first raises something, the second has no address, and the bus does
not take the reply to the third. -/
theorem run_served_one_slot :
    ∃ dispatcher, Dispatcher.ofCapacity 1 = .ok dispatcher ∧
      let floor := (ofDispatcher dispatcher : Floor Unit).run
        [.deliver ⟨.save, "a", []⟩, .deliver ⟨.receive, "", []⟩, .start 0, .deliver ⟨.receive, "c", []⟩,
          .answer 0 (.error ()), .finish 0 true, .resume, .start 1, .finish 1 true, .resume, .start 2,
          .answer 2 (.ok "x"), .finish 2 false]
      floor.started = [0, 1, 2] ∧ floor.finished = [0, 1, 2] ∧ floor.started.Nodup ∧
        floor.repliesTo 0 = [⟨0, "a", Reply.internal⟩] ∧ (1 ∉ floor.called ∧ floor.repliesTo 1 = []) ∧
        floor.repliesTo 2 = [⟨2, "c", "x"⟩] := by
  obtain ⟨dispatcher, opened, served⟩ := @run_served Unit 1 (by decide)
  refine ⟨dispatcher, opened, ?_⟩
  intro floor
  cases opened
  obtain ⟨-, -, -, once, replies⟩ := served _
  have started : floor.started = [0, 1, 2] := by rfl
  have finished : floor.finished = [0, 1, 2] := by rfl
  have done (number : Nat) (member : number ∈ [0, 1, 2]) : number ∈ floor.finished := finished ▸ member
  refine ⟨started, finished, once, ?_, ?_, ?_⟩
  · obtain ⟨outcome, answered, told, _⟩ := (replies 0 ⟨.save, "a", []⟩ rfl).2 (by decide) (done 0 (by decide))
    obtain rfl : outcome = .error () := by simpa using answered
    exact told
  · exact (replies 1 ⟨.receive, "", []⟩ rfl).1 (by decide)
  · obtain ⟨outcome, answered, told, _⟩ := (replies 2 ⟨.receive, "c", []⟩ rfl).2 (by decide) (done 2 (by decide))
    obtain rfl : outcome = .ok "x" := by simpa using answered
    exact told

end Floor
end ReadOnce.Broker
