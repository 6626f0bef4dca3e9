import ReadOnce.Bytes
import ReadOnce.Json.Printer
import ReadOnce.Json.Reader
import ReadOnce.Validation

/-!
Identifiers: the id of a message and the key to it, as handed out when a text is saved and presented to
receive it. On the wire an identifier is a JSON object; members beside the two are ignored.
-/
namespace ReadOnce.Message

/-- An id and a key, as texts of type `τ`. -/
structure Identifier (τ : Type) where
  messageId : τ
  aesKey : τ
deriving DecidableEq, Repr

namespace Identifier

open Validation

def toJson (identifier : Identifier WideText) : Json :=
  .obj [(.ofString "messageId", .str identifier.messageId), (.ofString "aesKey", .str identifier.aesKey)]

def widen (identifier : Identifier String) : Identifier WideText :=
  ⟨.ofString identifier.messageId, .ofString identifier.aesKey⟩

/-- The wire form. -/
def write (identifier : Identifier String) : String :=
  "\x7b\"messageId\":" ++ Json.quote identifier.messageId ++ ",\"aesKey\":" ++ Json.quote identifier.aesKey ++
    "\x7d"

/-- The text under a name. -/
def textMember (members : List (WideText × Json)) (name : String) : Checked WideText :=
  match Json.lookup? name members with
  | none => .error [⟨some name, .missing⟩]
  | some (.str text) => .ok text
  | some _ => .error [⟨some name, .text⟩]

/-- The identifier that a value gives; `otherwise` is said of a value that is no object. -/
def ofJson (otherwise : Reason) : Json → Checked (Identifier WideText)
  | .obj members =>
    Checked.of Identifier.mk
      |>.and (textMember members "messageId")
      |>.and (textMember members "aesKey")
  | _ => .error [⟨none, otherwise⟩]

/-- What a document may hold: 200 containers in each other, no surrogate alone, and no number with more than
4300 digits before its fraction. -/
def limits : Json.Limits where
  levels := 200
  countsEmpty := false
  surrogates := false
  wholeDigits := 4300
  everyNumber := true

def narrow? (identifier : Identifier WideText) : Option (Identifier String) := do
  return ⟨← identifier.messageId.toString?, ← identifier.aesKey.toString?⟩

/-- The identifier that a document in UTF-8 gives. -/
def read (document : Bytes) : Checked (Identifier String) := do
  let some text := Bytes.toText? document | throw [⟨none, .document⟩]
  let .ok value := Json.read limits (.ofString text) | throw [⟨none, .document⟩]
  let identifier ← ofJson .object value
  match identifier.narrow? with
  | some identifier => pure identifier
  | none => throw [⟨none, .document⟩]

end Identifier
end ReadOnce.Message
