import ReadOnce.Broker.Lifetime
import ReadOnce.Client
import ReadOnce.Rehearsal.Randomness
import ReadOnce.Rehearsal.Store

/-!
A broker on a bus within the process. Requests are delivered one after another and each is answered before
the next one comes; all that passes over the bus is kept as events.
-/
namespace ReadOnce.Rehearsal

open Broker Message Store

/-- The random source and the store of a rehearsal. -/
abbrev World := Dice × Unsteady Backend

def world (dice : Dice) (backend : Backend) : World := (dice, ⟨backend, [], 0⟩)

def store : KeyValueStore (Unsteady Backend) := Unsteady.interface Backend.interface

inductive BusEvent where
  | asked (call : BusCall)
  | published (address body : String)
  | cancelled
deriving DecidableEq, Repr

/-- A broker and the bus it is on, with what passed over the bus and what was recorded so far. -/
structure Bus where
  broker : Broker
  world : World
  now : Instant
  /-- How many requests asked for a reply to an address of the bus. -/
  inboxes : Nat
  /-- Whether publishing fails. -/
  failing : Bool
  events : List BusEvent
  log : Log

namespace Bus

def ofBroker (broker : Broker) (world : World) (now : Instant) : Bus := ⟨broker, world, now, 0, false, [], []⟩

def happens (events : List BusEvent) (log : Log) (bus : Bus) : Bus :=
  { bus with events := bus.events ++ events, log := bus.log ++ log }

def lead (change : Broker → Run Broker (List BusCall)) (bus : Bus) : Bus :=
  let run := change bus.broker
  { bus with broker := run.state }.happens (run.result.map .asked) run.log

def start (bus : Bus) : Bus := bus.lead Broker.start
def stop (bus : Bus) : Bus := bus.lead Broker.stop

/-- The broker's task is cancelled from outside, and it stops. -/
def cancel (bus : Bus) : Bus := (bus.happens [.cancelled] []).stop

/-- Answers a running job, and gives the reply if it was published. -/
def work (job : Job) (bus : Bus) : Option String × Bus :=
  let answered := job.answer bus.broker.service dice store bus.now bus.world
  let attempts := Dispatcher.attempts? job answered.result
  let bus := { bus with
    world := answered.state
    broker.dispatcher := bus.broker.dispatcher.finish job.number answered.result }
  if bus.failing then (none, bus.happens [] (answered.log ++ attempts.flatMap (·.lost)))
  else
    (attempts.head?.map (·.body),
      bus.happens (attempts.map fun attempt => .published attempt.address attempt.body) answered.log)

/-- A request on a subject to which no one is subscribed. -/
structure NoSubscriber where
  subject : String

def NoSubscriber.message (missing : NoSubscriber) : String :=
  String.ofList (Text.quoted (.ofString missing.subject))

/-- Delivers a request by the name of its subject and lets it run to its end. -/
def send (subject address : String) (body : Bytes) (bus : Bus) :
    Except NoSubscriber (Option String) × Bus :=
  match (Subject.ofName? subject).filter bus.broker.subscribed.contains with
  | none => (.error ⟨subject⟩, bus)
  | some subject =>
    let bus := { bus with broker.dispatcher := bus.broker.dispatcher.deliver ⟨subject, address, body⟩ }
    match bus.broker.dispatcher.running with
    | [] => (.ok none, bus)
    | job :: _ =>
      let (reply, bus) := bus.work job
      (.ok reply, bus)

/-- Sends a request that asks for a reply to a new address. -/
def request (subject : String) (body : Bytes) (bus : Bus) : Except NoSubscriber (Option String) × Bus :=
  let bus := { bus with inboxes := bus.inboxes + 1 }
  bus.send subject ("_INBOX." ++ toString bus.inboxes) body

/-- A request from the client's side, and what its reply means. -/
def ask {α : Type} (subject : Subject) (body : String)
    (meaning : Option Bytes → Except Client.Fault α) (bus : Bus) : Except Client.Fault α × Bus :=
  match bus.request subject.name (Bytes.ofText body) with
  | (.ok reply, bus) => (meaning (reply.map Bytes.ofText), bus)
  | (.error missing, bus) => (.error (.undelivered missing.message), bus)

def clientSave (text : String) : Bus → Except Client.Fault (Identifier WideText) × Bus :=
  ask .save (Client.saveBody text) Client.saved

def clientReceive (identifier : Identifier String) : Bus → Except Client.Fault WideText × Bus :=
  ask .receive (Client.receiveBody identifier) Client.received

end Bus
end ReadOnce.Rehearsal
