import ReadOnce.Broker.Handler
import ReadOnce.Json.Display
import ReadOnce.Text.Encoding

/-!
The other side of the broker: requests to save a text and to receive a message, and what their replies mean.
A reply is an error if it is an object with a member of that name, whatever else it holds.
-/
namespace ReadOnce.Client

open Message

/-- Seconds to wait for a reply. -/
def patience : Float := 5.0

/-- Why a request has no result. -/
inductive Fault where
  /-- No one takes the request. -/
  | undelivered (reason : String)
  | nothing
  | encoding
  | document (refusal : Json.Refusal)
  | refused (message : WideText)
  | identifier (issues : List Validation.Issue)

/-- A reply may hold any JSON, but no more than 980 containers in each other and no whole number of more than
4300 digits. -/
def limits : Json.Limits where
  levels := 980
  countsEmpty := true
  surrogates := true
  wholeDigits := Text.digitLimit
  everyNumber := false

/-- The value in a reply that is no error. -/
def payload (reply : Option Bytes) : Except Fault Json := do
  let some body := reply | throw .nothing
  let some text := Text.decode? body | throw .encoding
  match Json.read limits text with
  | .error refusal => throw (.document refusal)
  | .ok value =>
    match value.field? "error" with
    | some error => throw (.refused error.display)
    | none => pure value

/-- The request to save a text. -/
def saveBody (text : String) : String := text

/-- The request to receive a message. -/
def receiveBody (identifier : Identifier String) : String := identifier.write

/-- The identifier in a reply to a request to save. -/
def saved (reply : Option Bytes) : Except Fault (Identifier WideText) := do
  match Identifier.ofJson .identifier (← payload reply) with
  | .ok identifier => pure identifier
  | .error issues => throw (.identifier issues)

def unexpected : String := "Unexpected reply from broker"

/-- The text in a reply to a request to receive. -/
def received (reply : Option Bytes) : Except Fault WideText := do
  match ← payload reply with
  | .str text => pure text
  | _ => throw (.refused (.ofString unexpected))

end ReadOnce.Client
