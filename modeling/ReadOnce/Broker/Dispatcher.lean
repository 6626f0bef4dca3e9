import ReadOnce.Broker.Handler

/-!
Dispatching requests over a fixed number of slots. A request that finds no free slot is parked, and parked
requests are given slots in the order in which they came. Each event below is one atomic step; a slot that is
given to a parked request stays taken until that request, too, has been answered.
-/
namespace ReadOnce.Broker

/-- A request from the bus. An empty address asks for no reply. -/
structure Request where
  subject : Subject
  address : String
  body : Bytes
deriving DecidableEq, Repr

/-- A request, numbered in the order of delivery. -/
structure Job where
  number : Nat
  request : Request
deriving DecidableEq, Repr

/-- A reply that was handed to the bus, whether or not the bus took it. -/
structure Attempt where
  number : Nat
  address : String
  body : String
deriving DecidableEq, Repr

/-- A number of slots below zero. -/
structure SlotFault where

def SlotFault.message (_ : SlotFault) : String := "Semaphore initial value must be >= 0"

structure Dispatcher where
  /-- How many slots there are, and how many of them are taken by no one. -/
  capacity : Nat
  free : Nat
  /-- How many requests were delivered. -/
  delivered : Nat
  /-- Requests without a slot. -/
  parked : List Job
  /-- Requests that were given a slot and are about to start. -/
  granted : List Job
  running : List Job
  attempts : List Attempt
  /-- The requests that were running when the dispatcher was told to stop. -/
  awaited : Option (List Nat)
deriving Repr

namespace Dispatcher

def ofCapacity (slots : Int) : Except SlotFault Dispatcher :=
  if slots < 0 then .error ⟨⟩ else .ok ⟨slots.toNat, slots.toNat, 0, [], [], [], [], none⟩

/-- How many requests are being answered. -/
def inFlight (dispatcher : Dispatcher) : Nat := dispatcher.running.length

/-- Gives a free slot to the first parked request. -/
def grant (dispatcher : Dispatcher) : Dispatcher :=
  match dispatcher.parked with
  | [] => dispatcher
  | job :: rest =>
    if dispatcher.free = 0 then dispatcher
    else
      { dispatcher with
        free := dispatcher.free - 1
        parked := rest
        granted := dispatcher.granted ++ [job] }

/-- A request comes. It starts at once if a slot is free and no one is before it. -/
def deliver (request : Request) (dispatcher : Dispatcher) : Dispatcher :=
  let job : Job := ⟨dispatcher.delivered, request⟩
  let counted := { dispatcher with delivered := dispatcher.delivered + 1 }
  if dispatcher.free = 0 ∨ dispatcher.parked ≠ [] ∨ dispatcher.granted ≠ [] then
    { counted with parked := counted.parked ++ [job] }
  else { counted with free := counted.free - 1, running := counted.running ++ [job] }

/-- The first request that was given a slot starts. -/
def resume (dispatcher : Dispatcher) : Dispatcher :=
  match dispatcher.granted with
  | [] => dispatcher
  | job :: rest => grant { dispatcher with granted := rest, running := dispatcher.running ++ [job] }

/-- What is published for a request: a reply where one is asked for, an error where there is none to give. -/
def attempts? (job : Job) (reply : Option String) : List Attempt :=
  if job.request.address.isEmpty then []
  else [⟨job.number, job.request.address, reply.getD Reply.internal⟩]

/-- A running request is answered, and its slot is free again. Without a reply, answering it went wrong. -/
def finish (number : Nat) (reply : Option String) (dispatcher : Dispatcher) : Dispatcher :=
  match dispatcher.running.find? (·.number = number) with
  | none => dispatcher
  | some job =>
    grant { dispatcher with
      free := dispatcher.free + 1
      running := dispatcher.running.filter (·.number ≠ number)
      attempts := dispatcher.attempts ++ attempts? job reply }

/-- The dispatcher is told to stop: it waits for what is running now. -/
def stop (dispatcher : Dispatcher) : Dispatcher :=
  { dispatcher with awaited := some (dispatcher.running.map (·.number)) }

/-- Whether all that was waited for has been answered. -/
def hasStopped (dispatcher : Dispatcher) : Bool :=
  match dispatcher.awaited with
  | none => false
  | some numbers => dispatcher.running.all fun job => !numbers.contains job.number

inductive Event where
  | deliver (request : Request)
  | resume
  | finish (number : Nat) (reply : Option String)
  | stop

def step (dispatcher : Dispatcher) : Event → Dispatcher
  | .deliver request => dispatcher.deliver request
  | .resume => dispatcher.resume
  | .finish number reply => dispatcher.finish number reply
  | .stop => dispatcher.stop

def run (dispatcher : Dispatcher) (events : List Event) : Dispatcher := events.foldl step dispatcher

end Dispatcher

variable {ρ σ : Type}

def say (level : Log.Level) (message : String) : Log := [⟨level, .dispatcher, message⟩]

/-- Answers a request that runs. One without an address is dropped; whatever goes wrong in answering becomes
the reply that says so. -/
def Job.answer (job : Job) (service : Message.Service) (source : RandomSource ρ)
    (store : Store.KeyValueStore σ) (now : Instant) (state : ρ × σ) :
    Message.Run (ρ × σ) (Option String) :=
  let subject := job.request.subject
  if job.request.address.isEmpty then
    ⟨none, state,
      say .warning ("No reply address provided on " ++ subject.name ++ ", dropping request")⟩
  else
    let run := Handler.answer subject service source store now job.request.body state
    match run.result with
    | .ok reply => ⟨some reply, run.state, run.log⟩
    | .error _ => ⟨none, run.state, run.log ++ say .error ("Unexpected error handling " ++ subject.name)⟩

/-- What is recorded of a reply that the bus did not take. -/
def Attempt.lost (attempt : Attempt) : Log :=
  say .error ("Failed to publish reply to " ++ attempt.address)

end ReadOnce.Broker
