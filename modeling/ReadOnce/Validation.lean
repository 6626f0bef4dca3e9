import ReadOnce.Text.Wide

/-!
What is wrong with the fields of a value, or with the value as a whole. Fields are checked side by side, so
that everything wrong with them is told at once.
-/
namespace ReadOnce.Validation

inductive Reason where
  | missing
  | text
  | integer
  | integerText
  | integerSize
  | fraction
  | notFinite
  | number
  | numberText
  | atLeast (bound : Int)
  | positive
  | object
  | identifier
  | backend
  | document
deriving DecidableEq, Repr

namespace Reason

/-- The name of the reason. -/
def name : Reason → String
  | missing => "missing"
  | text => "string_type"
  | integer => "int_type"
  | integerText => "int_parsing"
  | integerSize => "int_parsing_size"
  | fraction => "int_from_float"
  | notFinite => "finite_number"
  | number => "float_type"
  | numberText => "float_parsing"
  | atLeast _ => "greater_than_equal"
  | positive => "greater_than"
  | object | identifier => "model_type"
  | backend => "value_error"
  | document => "json_invalid"

/-- What the reason says; a document that is no JSON is not described. -/
def message? : Reason → Option String
  | missing => some "Field required"
  | text => some "Input should be a valid string"
  | integer => some "Input should be a valid integer"
  | integerText => some "Input should be a valid integer, unable to parse string as an integer"
  | integerSize => some "Unable to parse input string as an integer, exceeded maximum size"
  | fraction => some "Input should be a valid integer, got a number with a fractional part"
  | notFinite => some "Input should be a finite number"
  | number => some "Input should be a valid number"
  | numberText => some "Input should be a valid number, unable to parse string as a number"
  | atLeast bound => some ("Input should be greater than or equal to " ++ toString bound)
  | positive => some "Input should be greater than 0"
  | object => some "Input should be an object"
  | identifier => some "Input should be a valid dictionary or instance of SecretMessageIdentifier"
  | backend => some "Value error, store_backend must be one of redis, postgres, memory"
  | document => none

end Reason

/-- A reason, with the field that it is about. -/
structure Issue where
  field : Option String
  reason : Reason
deriving DecidableEq, Repr

/-- An issue on a line of its own. -/
def Issue.line (issue : Issue) : String :=
  issue.field.getD "" ++ ": " ++ issue.reason.message?.getD issue.reason.name

/-- A value, or all that is wrong with what it would be made of. -/
abbrev Checked (α : Type) := Except (List Issue) α

namespace Checked

variable {α β : Type}

/-- A value with nothing wrong so far. -/
def of (value : α) : Checked α := .ok value

/-- The result for one more field. -/
def and (make : Checked (α → β)) (field : Checked α) : Checked β :=
  match make, field with
  | .ok make, .ok field => .ok (make field)
  | .ok _, .error issues => .error issues
  | .error issues, .ok _ => .error issues
  | .error first, .error second => .error (first ++ second)

theorem and_eq_ok_iff {make : Checked (α → β)} {field : Checked α} {value : β} :
    make.and field = .ok value ↔ ∃ f a, make = .ok f ∧ field = .ok a ∧ f a = value := by
  cases make <;> cases field <;> simp [and]

end Checked
end ReadOnce.Validation
