import ReadOnce.Base64
import ReadOnce.Cipher.Chaining
import ReadOnce.Randomness

/-!
Envelopes: a text encrypted under a key, after an initial block of its own, written in base64. An envelope
that opens is exactly what locking produces, bits that base64 ignores apart.
-/
namespace ReadOnce.Envelope

/-- Bytes in the key of an envelope. -/
def keyLength : Nat := 32

/-- Bytes in the initial block, and in a salt. -/
def initialLength : Nat := 16

inductive LockFault where
  | random (fault : RandomFault)
  | keySize (fault : Cipher.KeySizeFault)
deriving DecidableEq, Repr

def LockFault.message : LockFault → String
  | random fault => fault.message
  | keySize fault => fault.message

/-- Why an envelope does not open. The first three are faults of its form, whatever the key. -/
inductive UnlockFault where
  | notBase64
  | tooShort
  | notInBlocks
  | keySize
  | badPadding
deriving DecidableEq, Repr

namespace UnlockFault

def message : UnlockFault → String
  | notBase64 => "envelope is not valid base64"
  | tooShort => "envelope too short"
  | notInBlocks => "ciphertext is not block aligned"
  | keySize => "key must be 32 bytes"
  | badPadding => "bad padding"

/-- Whether the fault lies in the form of the envelope. -/
def isMalformed : UnlockFault → Bool
  | notBase64 | tooShort | notInBlocks => true
  | keySize | badPadding => false

end UnlockFault

/-- The text locked up after a given initial block. -/
def lockWith (schedule : Cipher.Schedule) (initial text : Bytes) : String :=
  Base64.encode (initial ++ Cipher.encryptText schedule initial text)

variable {σ : Type}

/-- Locks up a text: the initial block is drawn first, and only then is the key looked at. -/
def lock (source : RandomSource σ) (text key : Bytes) (state : σ) : Except LockFault String × σ :=
  match source.bytes initialLength state with
  | (.error fault, next) => (.error (.random fault), next)
  | (.ok initial, next) =>
    match Cipher.Schedule.ofKey key with
    | .error fault => (.error (.keySize fault), next)
    | .ok schedule => (.ok (lockWith schedule initial text), next)

/-- The text in an envelope. -/
def unlock (envelope : String) (key : Bytes) : Except UnlockFault Bytes := do
  let some raw := Base64.decode? envelope | throw .notBase64
  if raw.length < initialLength + 1 then throw .tooShort
  let encrypted := raw.drop initialLength
  if encrypted.length % 16 ≠ 0 then throw .notInBlocks
  if key.length ≠ keyLength then throw .keySize
  let .ok schedule := Cipher.Schedule.ofKey key | throw .keySize
  match Cipher.unpad? (Cipher.decryptBlocks schedule (raw.take initialLength) encrypted) with
  | some text => pure text
  | none => throw .badPadding

end ReadOnce.Envelope
