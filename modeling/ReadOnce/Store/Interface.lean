import ReadOnce.Store.Shelf
import ReadOnce.Text.Numeral

/-!
What the broker asks of a store: four calls, each of which happens at one time and as a whole. A store fails
by saying that it cannot be reached; the other faults are those of times and counters. A message and its count of
attempts are kept under keys of their own.
-/
namespace ReadOnce.Store

namespace Key

def message (id : String) : String := "messages:" ++ id
def attempts (id : String) : String := "attempts:" ++ id

/-- What stands before the first colon of a key; all of it where there is none. -/
def kind (key : String) : String := String.ofList (key.toList.takeWhile (· ≠ ':'))

end Key

inductive StoreFault where
  | unavailable (reason : String)
  | dateRange
  | counter (fault : Text.NumeralFault)
  | broken (reason : String)
deriving DecidableEq, Repr

def StoreFault.message : StoreFault → String
  | unavailable reason => reason
  | dateRange => "date value out of range"
  | counter fault => fault.message
  | broken reason => reason

/-- A store with states of type `σ`. -/
structure KeyValueStore (σ : Type) where
  /-- Overwrites a key; a duration that is not positive lets the entry expire at once. -/
  put : Instant → (key value : String) → Duration → σ → Except StoreFault Unit × σ
  get : Instant → (key : String) → σ → Except StoreFault (Option String) × σ
  /-- True only for the call that removed a live entry. -/
  delete : Instant → (key : String) → σ → Except StoreFault Bool × σ
  /-- Adds one to a counter and gives the new count; the duration matters where the counter begins. -/
  increment : Instant → (key : String) → Option Duration → σ → Except StoreFault Int × σ

/-- When an entry made now expires. -/
def expiry (now : Instant) (duration : Duration) : Except StoreFault Instant :=
  match now.after? duration with
  | some time => .ok time
  | none => .error .dateRange

/-- When a counter begun now expires; without a duration it never does. -/
def counterExpiry (now : Instant) : Option Duration → Except StoreFault (Option Instant)
  | none => .ok none
  | some duration => (expiry now duration).map some

/-- The count after a written one, and how it is written. -/
def nextCount (written : String) : Except StoreFault (Int × String) :=
  match Text.Numeral.parse written with
  | .error fault => .error (.counter fault)
  | .ok count =>
    match Text.Numeral.write (count + 1) with
    | .error fault => .error (.counter fault)
    | .ok text => .ok (count + 1, text)

end ReadOnce.Store
