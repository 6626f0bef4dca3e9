import ReadOnce.Base64
import ReadOnce.Envelope
import ReadOnce.Text.Blank

/-! What is asked of a text before it is stored, and of an id and a key before they are used. -/
namespace ReadOnce.Message

inductive TextFault where
  | empty
  | tooLarge (limit : Int)
  | blank
deriving DecidableEq, Repr

/-- The message about a text of too many bytes. -/
def sizeMessage (limit : Int) : String :=
  "Message size exceeds maximum allowed: " ++ toString limit ++ " bytes"

def TextFault.message : TextFault → String
  | empty => "Message cannot be empty"
  | tooLarge limit => sizeMessage limit
  | blank => "Message cannot be empty or whitespace only"

/-- What is wrong with a text, of which a limited number of bytes may be stored. -/
def textFault? (limit : Int) (text : String) : Option TextFault :=
  if text.isEmpty then some .empty
  else if limit < text.utf8ByteSize then some (.tooLarge limit)
  else if Text.isBlank text then some .blank
  else none

inductive IdentifierFault where
  | blankId
  | longId
  | blankKey
  | longKey
  | notBase64
  | keySize
deriving DecidableEq, Repr

def IdentifierFault.message : IdentifierFault → String
  | blankId => "Message ID cannot be empty"
  | longId => "Message ID too long"
  | blankKey => "AES key cannot be empty"
  | longKey => "AES key too long"
  | notBase64 => "AES key is not valid base64"
  | keySize => "AES key must decode to 32 bytes"

/-- How many characters an id and a key may have. -/
def idLimit : Nat := 100
def keyLimit : Nat := 500

/-- The bytes of the key, if the id and the key have the right form. -/
def keyOf (id key : String) : Except IdentifierFault Bytes :=
  if Text.isBlank id then .error .blankId
  else if idLimit < id.length then .error .longId
  else if Text.isBlank key then .error .blankKey
  else if keyLimit < key.length then .error .longKey
  else
    match Base64.decode? key with
    | none => .error .notBase64
    | some bytes => if bytes.length = Envelope.keyLength then .ok bytes else .error .keySize

end ReadOnce.Message
