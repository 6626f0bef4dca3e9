import ReadOnce.Blocks
import ReadOnce.Cipher.Schedule

/-!
Texts of any length in blocks: padding to whole blocks, and chaining, where each block is masked with the
encrypted one before it.
-/
namespace ReadOnce.Cipher

/-- The text with one to sixteen bytes added, each of them their number, so that blocks are full. -/
def pad (text : Bytes) : Bytes :=
  let missing := 16 - text.length % 16
  text ++ List.replicate missing (UInt8.ofNat missing)

/-- The text before its padding, if the padding is right in every byte. -/
def unpad? (padded : Bytes) : Option Bytes :=
  match padded.getLast? with
  | none => none
  | some mark =>
    let count := mark.toNat
    let text := padded.take (padded.length - count)
    if 1 ≤ count ∧ count ≤ 16 ∧ count ≤ padded.length ∧
        padded.drop (padded.length - count) = List.replicate count mark then some text
    else none

namespace Schedule

/-- Encrypts blocks in turn, each masked with the result before it. -/
def chain (schedule : Schedule) (mask : Block) (text : List Block) : List Block :=
  go mask text #[]
where
  go : Block → List Block → Array Block → List Block
    | _, [], done => done.toList
    | mask, block :: rest, done =>
      let next := schedule.encrypt (block.xor mask)
      go next rest (done.push next)

/-- Decrypts blocks; the mask of each is the encrypted block before it. -/
def unchain (schedule : Schedule) (mask : Block) (encrypted : List Block) : List Block :=
  List.zipWith (fun mask block => (schedule.decrypt block).xor mask) (mask :: encrypted) encrypted

end Schedule

/-- Encrypts a text after an initial block of sixteen bytes. -/
def encryptText (schedule : Schedule) (initial text : Bytes) : Bytes :=
  (schedule.chain (.ofBytes initial) ((blocks 16 (pad text)).map .ofBytes)).flatMap Block.toBytes

/-- Decrypts whole blocks, padding included. -/
def decryptBlocks (schedule : Schedule) (initial encrypted : Bytes) : Bytes :=
  (schedule.unchain (.ofBytes initial) ((blocks 16 encrypted).map .ofBytes)).flatMap Block.toBytes

end ReadOnce.Cipher
