import ReadOnce.Digest.Sha256

/-!
Keys from passwords: a keyed digest is iterated 65536 times over a salt, and the results are added up bit by
bit. The states after the first block of the keyed digest depend on the password alone.
-/
namespace ReadOnce.Digest

def iterations : Nat := 65536

/-- The two states from which digests keyed by a password continue. -/
structure Keyed where
  inner : State
  outer : State

namespace Keyed

def ofPassword (password : Bytes) : Keyed :=
  let key := if password.length ≤ 64 then password else sha256 password
  let block := key ++ List.replicate (64 - key.length) 0
  let masked (mask : UInt8) := State.initial.absorb (wordsOf (block.map (· ^^^ mask)))
  ⟨masked 0x36, masked 0x5c⟩

/-- The block that holds a digest and ends a message of one block before it. -/
private def digestBlock (digest : State) : List UInt32 :=
  digest.words ++ [0x80000000, 0, 0, 0, 0, 0, 0, 768]

def close (keyed : Keyed) (inner : State) : State := keyed.outer.absorb (digestBlock inner)

/-- The keyed digest of a message. -/
def digest (keyed : Keyed) (message : Bytes) : State := keyed.close (keyed.inner.finish 64 message)

/-- The keyed digest of a digest. -/
def again (keyed : Keyed) (digest : State) : State :=
  keyed.close (keyed.inner.absorb (digestBlock digest))

/-- The sum of a digest and of those that follow it. -/
def sumFrom (keyed : Keyed) : Nat → State → State → State
  | 0, _, sum => sum
  | count + 1, digest, sum =>
    let next := keyed.again digest
    sumFrom keyed count next (sum.zipWith (· ^^^ ·) next)

end Keyed

/-- The key of 32 bytes that a password and a salt give. -/
def deriveKey (password salt : Bytes) : Bytes :=
  let keyed := Keyed.ofPassword password
  let first := keyed.digest (salt ++ [0, 0, 0, 1])
  (keyed.sumFrom (iterations - 1) first first).bytes

end ReadOnce.Digest
