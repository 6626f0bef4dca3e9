import ReadOnce.Rehearsal.Bus

/-!
Requests under pressure: many requests come at once to a store that blocks when an attempt is counted. Requests
without an address need no store and end at once; all others hold their slots until the store is released.
-/
namespace ReadOnce.Rehearsal

open Broker Message Store

namespace Pressure

/-- Starts what has a slot and ends what needs no store, until nothing can move. -/
def settle : (moves : Nat) → Dispatcher → Dispatcher
  | 0, dispatcher => dispatcher
  | moves + 1, dispatcher =>
    if !dispatcher.granted.isEmpty then settle moves dispatcher.resume
    else
      match dispatcher.running.find? (·.request.address.isEmpty) with
      | some job => settle moves (dispatcher.finish job.number none)
      | none => dispatcher

/-- Answers running requests one by one, until none is left. -/
def drain (service : Service) (now : Instant) : (moves : Nat) → Dispatcher × World → Dispatcher
  | 0, (dispatcher, _) => dispatcher
  | moves + 1, (dispatcher, world) =>
    if !dispatcher.granted.isEmpty then drain service now moves (dispatcher.resume, world)
    else
      match dispatcher.running with
      | [] => dispatcher
      | job :: _ =>
        let answered := job.answer service dice store now world
        drain service now moves (dispatcher.finish job.number answered.result, answered.state)

/-- What is seen of the requests. -/
structure Report where
  inFlight : Nat
  parked : Nat
  /-- Where the dispatcher was told to stop: whether it had stopped before the store was released. -/
  stoppedEarly : Option Bool
  inFlightAfter : Nat
  replies : List Attempt

/-- Lets requests come at once, stops the dispatcher if that is asked for, and releases the store. -/
def run (service : Service) (world : World) (now : Instant) (slots : Int) (stop : Bool)
    (requests : List Request) : Except SlotFault Report := do
  let dispatcher ← Dispatcher.ofCapacity slots
  let moves := 2 * requests.length + 1
  let full := settle moves (requests.foldl (fun dispatcher request => dispatcher.deliver request) dispatcher)
  let told := if stop then full.stop else full
  let done := drain service now moves (told, world)
  return {
    inFlight := full.inFlight
    parked := full.parked.length
    stoppedEarly := if stop then some told.hasStopped else none
    inFlightAfter := done.inFlight
    replies := done.attempts.mergeSort fun left right => decide (left.address ≤ right.address) }

end Pressure
end ReadOnce.Rehearsal
