import ReadOnce.Text.Quoted

/-! How an operation on messages ends. -/
namespace ReadOnce.Message

inductive FailureKind where
  | badRequest
  | notFound
  | badKeyOrCorruption
  | budgetExceeded
  | storeUnavailable
  | randomFailure
  | internal
deriving DecidableEq, Repr

namespace FailureKind

def name : FailureKind → String
  | badRequest => "bad_request"
  | notFound => "not_found"
  | badKeyOrCorruption => "bad_key_or_corruption"
  | budgetExceeded => "budget_exceeded"
  | storeUnavailable => "store_unavailable"
  | randomFailure => "rng_failure"
  | internal => "internal"

def all : List FailureKind :=
  [badRequest, notFound, badKeyOrCorruption, budgetExceeded, storeUnavailable, randomFailure, internal]

def ofName? (name : String) : Option FailureKind := all.find? (·.name = name)

/-- What is said of a name that no kind has. -/
def unknownMessage (name : String) : String :=
  String.ofList (Text.quoted (.ofString name)) ++ " is not a valid ErrorKind"

theorem ofName?_name (kind : FailureKind) : ofName? kind.name = some kind := by cases kind <;> decide

end FailureKind

/-- The end of an operation that gives an `α`. A message whose attempts are used up is told of with success,
by a text in place of its own. -/
inductive Outcome (α : Type) where
  | success (value : α)
  | exhausted
  | failure (kind : FailureKind) (message : String)
deriving DecidableEq, Repr

/-- What is answered for a message whose attempts are used up. -/
def exhaustedText : String := "Maximum attempts reached, the message has been deleted."

end ReadOnce.Message
