import ReadOnce.Blocks
import ReadOnce.Cipher.Block

/-!
Keys and the block cipher. A key of 16, 24 or 32 bytes is expanded into one round key for each round and one
to begin with; a round substitutes, shifts, mixes and adds its key, and the last one does not mix.
-/
namespace ReadOnce.Cipher

/-- The round keys of a key. -/
structure Schedule where
  first : Block
  middle : List Block
  last : Block

/-- A key size that the cipher does not know. -/
structure KeySizeFault where
  bytes : Nat
deriving DecidableEq, Repr

/-- A key of 512 bits is one for another mode of the cipher. -/
def KeySizeFault.message (fault : KeySizeFault) : String :=
  if fault.bytes = 64 then "Only 128, 192, and 256 bit keys are allowed for this AES mode"
  else "Invalid key size (" ++ toString (fault.bytes * 8) ++ ") for AES."

/-- The columns of the key, each later one made from the one before it and the one a key length before. -/
def expand (key : List Column) (count : Nat) : Array Column :=
  let length := key.length
  let next (columns : Array Column) (constant : UInt8) (index : Nat) : Column :=
    let before := columns.getD (index - 1) default
    let change :=
      if index % length = 0 then
        let turned := before.rotate.map substitute
        { turned with first := turned.first ^^^ constant }
      else if length > 6 ∧ index % length = 4 then before.map substitute
      else before
    (columns.getD (index - length) default).xor change
  let grow (state : Array Column × UInt8) (step : Nat) : Array Column × UInt8 :=
    let index := length + step
    (state.1.push (next state.1 state.2 index), if index % length = 0 then double state.2 else state.2)
  ((List.range (count - length)).foldl grow (key.toArray, 1)).1

def Schedule.ofKey (key : Bytes) : Except KeySizeFault Schedule :=
  if key.length = 16 ∨ key.length = 24 ∨ key.length = 32 then
    let columns := (blocks 4 key).map fun bytes =>
      ⟨bytes.getD 0 0, bytes.getD 1 0, bytes.getD 2 0, bytes.getD 3 0⟩
    let rounds := columns.length + 6
    let expanded := expand columns (4 * (rounds + 1))
    let roundKey (round : Nat) : Block :=
      ⟨expanded.getD (4 * round) default, expanded.getD (4 * round + 1) default,
        expanded.getD (4 * round + 2) default, expanded.getD (4 * round + 3) default⟩
    .ok ⟨roundKey 0, (List.range (rounds - 1)).map fun round => roundKey (round + 1), roundKey rounds⟩
  else .error ⟨key.length⟩

namespace Schedule

def encrypt (schedule : Schedule) (block : Block) : Block :=
  let mixed := schedule.middle.foldl (fun state key => state.substitute.shift.mix.xor key)
    (block.xor schedule.first)
  mixed.substitute.shift.xor schedule.last

def decrypt (schedule : Schedule) (block : Block) : Block :=
  let mixed := (block.xor schedule.last).unshift.restore
  (schedule.middle.foldr (fun key state => (state.xor key).unmix.unshift.restore) mixed).xor schedule.first

end Schedule
end ReadOnce.Cipher
