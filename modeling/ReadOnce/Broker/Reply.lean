import ReadOnce.Json.Printer
import ReadOnce.Message.Outcome

/-!
Error replies. They tell the kind of a failure and never whether the key, the envelope or its length was at
fault; only a bad request is told its own message.
-/
namespace ReadOnce.Broker.Reply

open Message

def internalText : String := "Internal server error"

/-- The wire form of an error. -/
def error (message : String) : String := "\x7b\"error\":" ++ Json.quote message ++ "\x7d"

def internal : String := error internalText

/-- What is said about a failure, the kind of which may be unknown. -/
def failureText (kind : Option FailureKind) (message : String) : String :=
  match kind with
  | some .badRequest => if message.isEmpty then "Bad request" else message
  | some .notFound => "Message not found"
  | some .badKeyOrCorruption => "Unable to decrypt message"
  | some .storeUnavailable => "Storage unavailable"
  | some .randomFailure => "Unable to generate secure random data"
  | some .internal | some .budgetExceeded | none => internalText

def failure (kind : Option FailureKind) (message : String) : String := error (failureText kind message)

end ReadOnce.Broker.Reply
