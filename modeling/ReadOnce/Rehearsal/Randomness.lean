import ReadOnce.Randomness

/-!
A random source for rehearsals: its bytes come from a linear recurrence or from a given cycle, and single
calls can be made to fail. A call that fails outright, or is answered with nothing, uses up no bytes.
-/
namespace ReadOnce.Rehearsal

/-- Where the bytes come from. -/
inductive Stream where
  | recurrence (state : Nat)
  | cycle (bytes : Array UInt8) (position : Nat)

/-- How a single call goes wrong. -/
inductive DrawFault where
  | unavailable
  | refused (reason : String)
  | tooShort
  | tooLong
  | empty

namespace Stream

def next : Stream → UInt8 × Stream
  | recurrence state =>
    let state := (state * 1103515245 + 12345) % Nat.pow 2 31
    (UInt8.ofNat (state / Nat.pow 2 16 % 256), recurrence state)
  | cycle bytes position =>
    (bytes.getD (position % bytes.size) 0, cycle bytes ((position + 1) % bytes.size))

def take (count : Nat) (stream : Stream) : Bytes × Stream :=
  let (bytes, stream) := (List.range count).foldl
    (fun (bytes, stream) _ => let (byte, stream) := next stream; (bytes.push byte, stream))
    ((#[] : Array UInt8), stream)
  (bytes.toList, stream)

end Stream

/-- The stream, the number of calls so far, and the faults by call. -/
structure Dice where
  stream : Stream
  calls : Nat
  faultAt : List (Nat × DrawFault)
  faultElsewhere : Option DrawFault

def Dice.fault? (dice : Dice) : Option DrawFault :=
  match dice.faultAt.find? (·.1 = dice.calls) with
  | some (_, fault) => some fault
  | none => dice.faultElsewhere

/-- Draws continue the stream from call to call. -/
def Dice.draw (length : Nat) (dice : Dice) : Draw × Dice :=
  let counted := { dice with calls := dice.calls + 1 }
  let deliver (count : Nat) : Draw × Dice :=
    let (bytes, stream) := dice.stream.take count
    (.bytes bytes, { counted with stream })
  match dice.fault? with
  | none => deliver length
  | some .tooShort => deliver (length - 1)
  | some .tooLong => deliver (length + 1)
  | some .empty => (.bytes [], counted)
  | some .unavailable => (.unavailable, counted)
  | some (.refused reason) => (.refused reason, counted)

def dice : RandomSource Dice := ⟨Dice.draw⟩

end ReadOnce.Rehearsal
