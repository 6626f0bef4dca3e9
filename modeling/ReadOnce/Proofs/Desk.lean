import ReadOnce.Proofs.Creation
import ReadOnce.Proofs.Wire
import ReadOnce.Rehearsal.Bus

/-!
A dispatcher at work. A request that comes while a slot is free for it is answered at once, with what its handler
makes of it; one that has to wait gets no reply for now.
-/
namespace ReadOnce.Broker

namespace Dispatcher

/-- Requests have numbers below the number of those that were delivered. -/
structure Numbered (dispatcher : Dispatcher) : Prop where
  parked : ∀ job ∈ dispatcher.parked, job.number < dispatcher.delivered
  granted : ∀ job ∈ dispatcher.granted, job.number < dispatcher.delivered
  running : ∀ job ∈ dispatcher.running, job.number < dispatcher.delivered
  attempts : ∀ attempt ∈ dispatcher.attempts, attempt.number < dispatcher.delivered

/-- A request that comes now is given a slot at once. -/
structure Ready (dispatcher : Dispatcher) : Prop where
  free : dispatcher.free ≠ 0
  parked : dispatcher.parked = []
  granted : dispatcher.granted = []

variable {dispatcher : Dispatcher}

theorem numbered_ofCapacity {slots : Int} (opened : ofCapacity slots = .ok dispatcher) : dispatcher.Numbered := by
  unfold ofCapacity at opened
  split at opened
  · cases opened
  · cases opened
    exact ⟨nofun, nofun, nofun, nofun⟩

theorem Numbered.grant (numbered : dispatcher.Numbered) : dispatcher.grant.Numbered := by
  obtain ⟨parked, granted, running, attempts⟩ := numbered
  unfold Dispatcher.grant
  split
  · exact ⟨parked, granted, running, attempts⟩
  · next job rest waiting =>
    split
    · exact ⟨parked, granted, running, attempts⟩
    · rw [waiting] at parked
      refine ⟨fun other member => parked other (List.mem_cons_of_mem job member), ?_, running, attempts⟩
      intro other member
      rcases List.mem_append.mp member with earlier | last
      · exact granted other earlier
      · rw [List.mem_singleton.mp last]
        exact parked job List.mem_cons_self

theorem Numbered.deliver (numbered : dispatcher.Numbered) (request : Request) :
    (dispatcher.deliver request).Numbered := by
  obtain ⟨parked, granted, running, attempts⟩ := numbered
  have onward {jobs : List Job} (bound : ∀ job ∈ jobs, job.number < dispatcher.delivered) :
      ∀ job ∈ jobs, job.number < dispatcher.delivered + 1 := fun job member => Nat.lt_succ_of_lt (bound job member)
  have added {jobs : List Job} (bound : ∀ job ∈ jobs, job.number < dispatcher.delivered) :
      ∀ job ∈ jobs ++ [⟨dispatcher.delivered, request⟩], job.number < dispatcher.delivered + 1 := by
    intro job member
    rcases List.mem_append.mp member with earlier | last
    · exact onward bound job earlier
    · rw [List.mem_singleton.mp last]
      exact Nat.lt_succ_self _
  have published (attempt : Attempt) (member : attempt ∈ dispatcher.attempts) :=
    Nat.lt_succ_of_lt (attempts attempt member)
  unfold Dispatcher.deliver
  dsimp only
  split
  · exact ⟨added parked, onward granted, onward running, published⟩
  · exact ⟨onward parked, onward granted, added running, published⟩

theorem Numbered.resume (numbered : dispatcher.Numbered) : dispatcher.resume.Numbered := by
  unfold Dispatcher.resume
  split
  · exact numbered
  · next job rest waiting =>
    apply Numbered.grant
    obtain ⟨parked, granted, running, attempts⟩ := numbered
    rw [waiting] at granted
    refine ⟨parked, fun other member => granted other (List.mem_cons_of_mem job member), ?_, attempts⟩
    intro other member
    rcases List.mem_append.mp member with earlier | last
    · exact running other earlier
    · rw [List.mem_singleton.mp last]
      exact granted job List.mem_cons_self

theorem number_attempts? {job : Job} {reply : Option String} {attempt : Attempt}
    (member : attempt ∈ attempts? job reply) : attempt.number = job.number := by
  unfold attempts? at member
  split at member
  · cases member
  · rw [List.mem_singleton.mp member]

theorem Numbered.finish (numbered : dispatcher.Numbered) (number : Nat) (reply : Option String) :
    (dispatcher.finish number reply).Numbered := by
  unfold Dispatcher.finish
  split
  · exact numbered
  · next job found =>
    apply Numbered.grant
    obtain ⟨parked, granted, running, attempts⟩ := numbered
    refine ⟨parked, granted, fun other member => running other (List.mem_filter.mp member).1, ?_⟩
    intro attempt member
    rcases List.mem_append.mp member with earlier | last
    · exact attempts attempt earlier
    · rw [number_attempts? last]
      exact running job (List.mem_of_find?_eq_some found)

theorem Numbered.step (numbered : dispatcher.Numbered) (event : Event) : (dispatcher.step event).Numbered := by
  cases event with
  | deliver request => exact numbered.deliver request
  | resume => exact numbered.resume
  | finish number reply => exact numbered.finish number reply
  | stop => exact ⟨numbered.parked, numbered.granted, numbered.running, numbered.attempts⟩

theorem Numbered.run (numbered : dispatcher.Numbered) (events : List Event) : (dispatcher.run events).Numbered := by
  induction events generalizing dispatcher with
  | nil => exact numbered
  | cons event rest ih => exact ih (numbered.step event)

theorem Ready.deliver_eq (ready : dispatcher.Ready) (request : Request) :
    dispatcher.deliver request =
      { dispatcher with
        delivered := dispatcher.delivered + 1
        free := dispatcher.free - 1
        running := dispatcher.running ++ [⟨dispatcher.delivered, request⟩] } := by
  apply if_neg
  rintro (full | waiting | waiting)
  · exact ready.free full
  · exact waiting ready.parked
  · exact waiting ready.granted

/-- A request that finds a slot runs, and is answered: its reply is published, and its slot is free again. -/
theorem Ready.finish_deliver (ready : dispatcher.Ready) (numbered : dispatcher.Numbered) (request : Request)
    (reply : Option String) :
    let job : Job := ⟨dispatcher.delivered, request⟩
    let answered := (dispatcher.deliver request).finish job.number reply
    (dispatcher.deliver request).running.find? (·.number = job.number) = some job ∧ answered.Ready ∧
      answered.attempts = dispatcher.attempts ++ attempts? job reply := by
  intro job answered
  have found : (dispatcher.running ++ [job]).find? (·.number = job.number) = some job := by
    rw [List.find?_append, List.find?_eq_none.mpr, Option.none_or, List.find?_singleton, if_pos (decide_eq_true rfl)]
    intro other member same
    exact Nat.ne_of_lt (numbered.running other member) (of_decide_eq_true same)
  have delivered : dispatcher.deliver request =
      { dispatcher with
        delivered := dispatcher.delivered + 1
        free := dispatcher.free - 1
        running := dispatcher.running ++ [job] } := ready.deliver_eq request
  have finished : answered =
      { dispatcher with
        delivered := dispatcher.delivered + 1
        free := dispatcher.free - 1 + 1
        running := (dispatcher.running ++ [job]).filter (·.number ≠ job.number)
        attempts := dispatcher.attempts ++ attempts? job reply } := by
    simp only [answered, finish, delivered, found, grant, ready.parked]
  rw [delivered, finished]
  exact ⟨found, ⟨Nat.succ_ne_zero _, ready.parked, ready.granted⟩, rfl⟩

theorem Numbered.find?_deliver (numbered : dispatcher.Numbered) (full : ¬ dispatcher.Ready) (request : Request) :
    (dispatcher.deliver request).running.find? (·.number = dispatcher.delivered) = none := by
  have closed : dispatcher.free = 0 ∨ dispatcher.parked ≠ [] ∨ dispatcher.granted ≠ [] := by
    by_cases free : dispatcher.free = 0
    · exact .inl free
    by_cases parked : dispatcher.parked = []
    · by_cases granted : dispatcher.granted = []
      · exact absurd ⟨free, parked, granted⟩ full
      · exact .inr (.inr granted)
    · exact .inr (.inl parked)
  rw [Dispatcher.deliver, if_pos closed]
  refine List.find?_eq_none.mpr fun other member same => ?_
  exact Nat.ne_of_lt (numbered.running other member) (of_decide_eq_true same)

end Dispatcher

/-- A dispatcher at work, with its random source and its store. -/
structure Desk (ρ σ : Type) where
  dispatcher : Dispatcher
  world : ρ × σ

open Message Store

variable {ρ σ : Type} {service : Service} {source : RandomSource ρ} {store : KeyValueStore σ} {now : Instant}

/-- A request is delivered, and answered if it is given a slot at once: what is published for it then is its reply. -/
def Desk.ask (service : Service) (source : RandomSource ρ) (store : KeyValueStore σ) (now : Instant)
    (request : Request) (desk : Desk ρ σ) : Option Bytes × Desk ρ σ :=
  let number := desk.dispatcher.delivered
  let delivered := desk.dispatcher.deliver request
  match delivered.running.find? (·.number = number) with
  | none => (none, ⟨delivered, desk.world⟩)
  | some job =>
    let answered := job.answer service source store now desk.world
    let finished := delivered.finish number answered.result
    ((finished.attempts.find? (·.number = number)).map fun attempt => Bytes.ofText attempt.body,
      ⟨finished, answered.state⟩)

/-- A job that asks for a reply gets the answer of its handler. -/
theorem Job.answer_addressed {job : Job} (addressed : job.request.address.isEmpty = false) (world : ρ × σ) :
    let answered := Handler.answer job.request.subject service source store now job.request.body world
    (job.answer service source store now world).result = answered.result.toOption ∧
      (job.answer service source store now world).state = answered.state := by
  simp only [Job.answer, addressed, if_neg Bool.false_ne_true]
  cases (Handler.answer job.request.subject service source store now job.request.body world).result <;>
    exact ⟨rfl, rfl⟩

variable {desk : Desk ρ σ} {request : Request}

/-- A request that asks for a reply and is given a slot is replied to with what its handler answers. -/
theorem Desk.ask_eq (ready : desk.dispatcher.Ready) (numbered : desk.dispatcher.Numbered)
    (addressed : request.address.isEmpty = false) :
    let answered := Handler.answer request.subject service source store now request.body desk.world
    desk.ask service source store now request =
      (some (Bytes.ofText (answered.result.toOption.getD Reply.internal)),
        ⟨(desk.dispatcher.deliver request).finish desk.dispatcher.delivered answered.result.toOption,
          answered.state⟩) := by
  intro answered
  let job : Job := ⟨desk.dispatcher.delivered, request⟩
  obtain ⟨result, state⟩ : (job.answer service source store now desk.world).result = answered.result.toOption ∧
      (job.answer service source store now desk.world).state = answered.state :=
    Job.answer_addressed addressed desk.world
  obtain ⟨found, _, attempts⟩ := ready.finish_deliver numbered request answered.result.toOption
  dsimp only at found attempts
  have published : ((desk.dispatcher.deliver request).finish desk.dispatcher.delivered
      answered.result.toOption).attempts.find? (·.number = desk.dispatcher.delivered) =
      some ⟨desk.dispatcher.delivered, request.address, answered.result.toOption.getD Reply.internal⟩ := by
    rw [attempts, List.find?_append, List.find?_eq_none.mpr, Option.none_or]
    · simp only [Dispatcher.attempts?, addressed, if_neg Bool.false_ne_true]
      rw [List.find?_singleton, if_pos (decide_eq_true rfl)]
    · intro earlier member same
      exact Nat.ne_of_lt (numbered.attempts earlier member) (of_decide_eq_true same)
  simp only [Desk.ask, found]
  rw [show (⟨desk.dispatcher.delivered, request⟩ : Job) = job from rfl, result, state, published, Option.map_some]

theorem Desk.ask_ready (ready : desk.dispatcher.Ready) (numbered : desk.dispatcher.Numbered)
    (addressed : request.address.isEmpty = false) :
    let asked := desk.ask service source store now request
    asked.2.dispatcher.Ready ∧ asked.2.dispatcher.Numbered := by
  rw [Desk.ask_eq ready numbered addressed]
  exact ⟨(ready.finish_deliver numbered request _).2.1, (numbered.deliver request).finish _ _⟩

theorem Desk.ready_of_ask (numbered : desk.dispatcher.Numbered) {reply : Bytes}
    (replied : (desk.ask service source store now request).1 = some reply) : desk.dispatcher.Ready := by
  by_cases ready : desk.dispatcher.Ready
  · exact ready
  · simp only [Desk.ask, numbered.find?_deliver ready request] at replied
    cases replied

end ReadOnce.Broker

namespace ReadOnce.Rehearsal.Bus

open Broker

/-- A bus that takes replies, with a broker that is at work and has nothing to do. -/
structure Quiet (bus : Bus) : Prop where
  taken : bus.failing = false
  subscribed : bus.broker.subscribed = Subject.all
  idle : bus.broker.dispatcher.running = []
  ready : bus.broker.dispatcher.Ready
  numbered : bus.broker.dispatcher.Numbered

variable {bus : Bus}

/-- On such a bus requests are answered as at a desk. -/
theorem Quiet.send_eq (quiet : bus.Quiet) (subject : Subject) {address : String} (addressed : address.isEmpty = false)
    (body : Bytes) :
    let asked := Desk.ask bus.broker.service dice store bus.now ⟨subject, address, body⟩
      ⟨bus.broker.dispatcher, bus.world⟩
    ∃ reply later, bus.send subject.name address body = (.ok (some reply), later) ∧
      asked = (some (Bytes.ofText reply), ⟨later.broker.dispatcher, later.world⟩) := by
  intro asked
  have known : (Subject.ofName? subject.name).filter bus.broker.subscribed.contains = some subject := by
    rw [quiet.subscribed]
    cases subject <;> rfl
  have started : (bus.broker.dispatcher.deliver ⟨subject, address, body⟩).running =
      [⟨bus.broker.dispatcher.delivered, ⟨subject, address, body⟩⟩] := by
    rw [quiet.ready.deliver_eq, quiet.idle, List.nil_append]
  obtain ⟨result, state⟩ := @Job.answer_addressed _ _ bus.broker.service dice store bus.now
    ⟨bus.broker.dispatcher.delivered, ⟨subject, address, body⟩⟩ addressed bus.world
  simp only [send, known, started, work, quiet.taken, if_neg Bool.false_ne_true, Dispatcher.attempts?, addressed,
    result, state]
  refine ⟨_, _, rfl, ?_⟩
  exact Desk.ask_eq quiet.ready quiet.numbered addressed

theorem Quiet.ask_eq {α : Type} (quiet : bus.Quiet) (subject : Subject) (body : String)
    (meaning : Option Bytes → Except Client.Fault α) :
    ∃ address, address.isEmpty = false ∧
      let asked := Desk.ask bus.broker.service dice store bus.now ⟨subject, address, Bytes.ofText body⟩
        ⟨bus.broker.dispatcher, bus.world⟩
      (bus.ask subject body meaning).1 = meaning asked.1 ∧
        (bus.ask subject body meaning).2.broker.dispatcher = asked.2.dispatcher ∧
        (bus.ask subject body meaning).2.world = asked.2.world := by
  have addressed : ("_INBOX." ++ toString (bus.inboxes + 1)).isEmpty = false := by
    refine Bool.eq_false_iff.mpr fun empty => ?_
    have chars := congrArg String.toList (String.isEmpty_iff.mp empty)
    rw [String.toList_append] at chars
    cases chars
  have numbered : Quiet { bus with inboxes := bus.inboxes + 1 } :=
    ⟨quiet.taken, quiet.subscribed, quiet.idle, quiet.ready, quiet.numbered⟩
  obtain ⟨reply, later, sent, asked⟩ := numbered.send_eq subject addressed (Bytes.ofText body)
  refine ⟨_, addressed, ?_⟩
  dsimp only at sent asked ⊢
  simp only [ask, request, sent, asked]
  exact ⟨rfl, trivial, trivial⟩

end ReadOnce.Rehearsal.Bus
