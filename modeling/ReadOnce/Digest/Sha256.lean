import ReadOnce.Blocks
import ReadOnce.Bytes

/-! The SHA-256 digest of a byte string, by words of 32 bits. -/
namespace ReadOnce.Digest

/-- The eight words that are carried from block to block. -/
structure State where
  a : UInt32
  b : UInt32
  c : UInt32
  d : UInt32
  e : UInt32
  f : UInt32
  g : UInt32
  h : UInt32
deriving DecidableEq, Repr

namespace State

/-- The fractions of the square roots of the first eight primes. -/
def initial : State :=
  ⟨0x6a09e667, 0xbb67ae85, 0x3c6ef372, 0xa54ff53a, 0x510e527f, 0x9b05688c, 0x1f83d9ab, 0x5be0cd19⟩

def words (state : State) : List UInt32 :=
  [state.a, state.b, state.c, state.d, state.e, state.f, state.g, state.h]

def zipWith (join : UInt32 → UInt32 → UInt32) (left right : State) : State :=
  ⟨join left.a right.a, join left.b right.b, join left.c right.c, join left.d right.d,
    join left.e right.e, join left.f right.f, join left.g right.g, join left.h right.h⟩

def bytes (state : State) : Bytes := state.words.flatMap fun word => Bytes.ofNat 4 word.toNat

end State

/-- The fractions of the cube roots of the first sixty-four primes. -/
private def constants : List UInt32 :=
  [0x428a2f98, 0x71374491, 0xb5c0fbcf, 0xe9b5dba5, 0x3956c25b, 0x59f111f1, 0x923f82a4, 0xab1c5ed5,
    0xd807aa98, 0x12835b01, 0x243185be, 0x550c7dc3, 0x72be5d74, 0x80deb1fe, 0x9bdc06a7, 0xc19bf174,
    0xe49b69c1, 0xefbe4786, 0x0fc19dc6, 0x240ca1cc, 0x2de92c6f, 0x4a7484aa, 0x5cb0a9dc, 0x76f988da,
    0x983e5152, 0xa831c66d, 0xb00327c8, 0xbf597fc7, 0xc6e00bf3, 0xd5a79147, 0x06ca6351, 0x14292967,
    0x27b70a85, 0x2e1b2138, 0x4d2c6dfc, 0x53380d13, 0x650a7354, 0x766a0abb, 0x81c2c92e, 0x92722c85,
    0xa2bfe8a1, 0xa81a664b, 0xc24b8b70, 0xc76c51a3, 0xd192e819, 0xd6990624, 0xf40e3585, 0x106aa070,
    0x19a4c116, 0x1e376c08, 0x2748774c, 0x34b0bcb5, 0x391c0cb3, 0x4ed8aa4a, 0x5b9cca4f, 0x682e6ff3,
    0x748f82ee, 0x78a5636f, 0x84c87814, 0x8cc70208, 0x90befffa, 0xa4506ceb, 0xbef9a3f7, 0xc67178f2]

private def turn (word : UInt32) (count : UInt32) : UInt32 := (word >>> count) ||| (word <<< (32 - count))

/-- The sixty-four words made from the sixteen of a block. -/
private def extend (block : List UInt32) : List UInt32 :=
  let grow (words : Array UInt32) (step : Nat) : Array UInt32 :=
    let near := words.getD (step + 14) 0
    let far := words.getD (step + 1) 0
    words.push ((turn near 17 ^^^ turn near 19 ^^^ (near >>> 10)) + words.getD (step + 9) 0 +
      (turn far 7 ^^^ turn far 18 ^^^ (far >>> 3)) + words.getD step 0)
  ((List.range 48).foldl grow block.toArray).toList

private def round (state : State) (constant word : UInt32) : State :=
  let ⟨a, b, c, d, e, f, g, h⟩ := state
  let first := h + (turn e 6 ^^^ turn e 11 ^^^ turn e 25) + ((e &&& f) ^^^ (~~~e &&& g)) + constant + word
  let second := (turn a 2 ^^^ turn a 13 ^^^ turn a 22) + ((a &&& b) ^^^ (a &&& c) ^^^ (b &&& c))
  ⟨first + second, a, b, c, d + first, e, f, g⟩

private def rounds : List UInt32 → List UInt32 → State → State
  | constant :: constants, word :: words, state => rounds constants words (round state constant word)
  | _, _, state => state

/-- Takes in one block of sixteen words. -/
def State.absorb (state : State) (block : List UInt32) : State :=
  state.zipWith (· + ·) (rounds constants (extend block) state)

/-- Words of four bytes each. -/
def wordsOf (bytes : Bytes) : List UInt32 := (blocks 4 bytes).map fun group => UInt32.ofNat (Bytes.toNat group)

/-- The end of a message of a given length in bytes: a set bit, zeros, and the length in bits. -/
def ending (length : Nat) : Bytes :=
  0x80 :: List.replicate ((119 - length % 64) % 64) 0 ++ Bytes.ofNat 8 (length * 8)

/-- Takes in a message that ends here, `before` bytes having been taken in already. -/
def State.finish (state : State) (before : Nat) (message : Bytes) : State :=
  (blocks 64 (message ++ ending (before + message.length))).foldl
    (fun state block => state.absorb (wordsOf block)) state

def sha256 (message : Bytes) : Bytes := (State.initial.finish 0 message).bytes

end ReadOnce.Digest
