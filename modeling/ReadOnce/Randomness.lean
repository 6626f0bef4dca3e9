import ReadOnce.Bytes

/-!
Sources of random bytes. A source may fail, and it may answer with the wrong number of bytes; what is handed
on always has the length asked for.
-/
namespace ReadOnce

/-- How a source answers one call. -/
inductive Draw where
  | bytes (value : Bytes)
  | unavailable
  | refused (reason : String)

/-- A source with states of type `σ`; a call asks for a number of bytes. -/
structure RandomSource (σ : Type) where
  draw : Nat → σ → Draw × σ

inductive RandomFault where
  | unavailable
  | wrongLength
  | refused (reason : String)
deriving DecidableEq, Repr

def RandomFault.message : RandomFault → String
  | unavailable => "CSPRNG unavailable"
  | wrongLength => "CSPRNG returned a short read"
  | refused reason => reason

variable {σ : Type}

/-- Exactly as many bytes as asked for, or the reason why there are none. -/
def RandomSource.bytes (source : RandomSource σ) (length : Nat) (state : σ) :
    Except RandomFault Bytes × σ :=
  match source.draw length state with
  | (.bytes value, next) => (if value.length = length then .ok value else .error .wrongLength, next)
  | (.unavailable, next) => (.error .unavailable, next)
  | (.refused reason, next) => (.error (.refused reason), next)

/-- As many bytes as a whole number says. A source is asked all the same for a number below zero, though no answer
has that length. -/
def RandomSource.bytesOf (source : RandomSource σ) (length : Int) (state : σ) : Except RandomFault Bytes × σ :=
  match source.bytes length.toNat state with
  | (.ok value, next) => (if length < 0 then .error .wrongLength else .ok value, next)
  | failed => failed

theorem RandomSource.length_bytes {source : RandomSource σ} {length : Nat} {state next : σ} {value : Bytes}
    (drawn : source.bytes length state = (.ok value, next)) : value.length = length := by
  unfold RandomSource.bytes at drawn
  split at drawn
  · split at drawn
    · rename_i same; simp_all
    · simp at drawn
  · simp at drawn
  · simp at drawn

end ReadOnce
