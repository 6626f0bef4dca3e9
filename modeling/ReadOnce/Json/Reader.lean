import ReadOnce.Json.Token

/-!
Reading JSON values. The reader keeps a stack of the containers that are still open and takes one token at a
time, so a document is refused at its first token that fits nowhere.
-/
namespace ReadOnce.Json

/-- Why a document is refused: it is no JSON, too many containers are open in each other, or a whole number has
too many digits. -/
inductive Refusal where
  | malformed
  | tooDeep
  | tooManyDigits (count : Nat)
deriving DecidableEq, Repr

/-- What a reader allows beyond the grammar. -/
structure Limits where
  /-- How many containers may stand in each other. -/
  levels : Nat
  /-- Whether an empty container counts as one of them. -/
  countsEmpty : Bool
  /-- Whether a surrogate may stand alone in a string. -/
  surrogates : Bool
  /-- How many digits the whole part of a number may have. -/
  wholeDigits : Nat
  /-- Whether numbers with a fraction or an exponent are held to the limit too. -/
  everyNumber : Bool

/-- A container that is still open, with what it holds so far. -/
inductive Frame where
  | array (items : Array Json)
  | object (members : Array (WideText × Json))
  | member (members : Array (WideText × Json)) (name : WideText)

/-- What may come next. -/
inductive Need where
  | value
  | firstItem
  | firstName
  | name
  | colon
  | separator
  | nothing (root : Json)

structure Reader where
  frames : List Frame
  need : Need

namespace Reader

def start : Reader := ⟨[], .value⟩

/-- Puts a finished value into the innermost open container. -/
def give (frames : List Frame) (value : Json) : Except Refusal Reader :=
  match frames with
  | [] => .ok ⟨[], .nothing value⟩
  | .array items :: rest => .ok ⟨.array (items.push value) :: rest, .separator⟩
  | .member members name :: rest => .ok ⟨.object (members.push (name, value)) :: rest, .separator⟩
  | .object _ :: _ => .error .malformed

/-- Begins a container. That there are too many is seen at once, if an empty one counts. -/
def begin (limits : Limits) (frames : List Frame) (need : Need) : Except Refusal Reader :=
  if limits.countsEmpty ∧ limits.levels < frames.length then .error .tooDeep else .ok ⟨frames, need⟩

/-- Refuses a whole part that is too long. -/
def checkLength (limits : Limits) (whole : List Char) : Except Refusal Unit :=
  if limits.wholeDigits < whole.length then .error (.tooManyDigits whole.length) else .ok ()

def textAllowed (limits : Limits) (text : WideText) : Bool :=
  limits.surrogates || text.toString?.isSome

/-- A token where a value must come. -/
def takeValue (limits : Limits) (frames : List Frame) : Token → Except Refusal Reader
  | .beginArray => begin limits (.array #[] :: frames) .firstItem
  | .beginObject => begin limits (.object #[] :: frames) .firstName
  | .word value => give frames value
  | .text value => if textAllowed limits value then give frames (.str value) else .error .malformed
  | .integer negative digits => do
    checkLength limits digits
    let size : Int := Decimal.ofDigits digits
    give frames (.int (if negative then -size else size))
  | .decimal negative whole fraction exponent => do
    if limits.everyNumber then checkLength limits whole
    give frames (.float (Decimal.toFloat negative (whole ++ fraction) (exponent - fraction.length)))
  | _ => .error .malformed

/-- A token where a name must come. -/
def takeName (limits : Limits) (frames : List Frame) (token : Token) : Except Refusal Reader :=
  match token, frames with
  | .text name, .object members :: rest =>
    if textAllowed limits name then .ok ⟨.member members name :: rest, .colon⟩ else .error .malformed
  | _, _ => .error .malformed

def step (limits : Limits) (reader : Reader) (token : Token) : Except Refusal Reader :=
  match reader.need, token, reader.frames with
  | .value, _, frames => takeValue limits frames token
  | .firstItem, .endArray, .array _ :: rest => give rest (.arr [])
  | .firstItem, _, frames =>
    if limits.levels < frames.length then .error .tooDeep else takeValue limits frames token
  | .firstName, .endObject, .object _ :: rest => give rest (.obj [])
  | .firstName, _, frames =>
    if limits.levels < frames.length then .error .tooDeep else takeName limits frames token
  | .name, _, frames => takeName limits frames token
  | .colon, .colon, frames => .ok ⟨frames, .value⟩
  | .separator, .comma, .array items :: rest => .ok ⟨.array items :: rest, .value⟩
  | .separator, .comma, .object members :: rest => .ok ⟨.object members :: rest, .name⟩
  | .separator, .endArray, .array items :: rest => give rest (.arr items.toList)
  | .separator, .endObject, .object members :: rest => give rest (.obj members.toList)
  | _, _, _ => .error .malformed

/-- The value read, if the document is complete. -/
def finish (reader : Reader) : Except Refusal Json :=
  match reader.need with
  | .nothing root => .ok root
  | _ => .error .malformed

end Reader

/-- The value that a text writes. -/
def read (limits : Limits) (text : WideText) : Except Refusal Json := do
  let reader ← (Token.ofText text).foldlM (Reader.step limits) Reader.start
  reader.finish

/-- Nothing is refused but what the grammar excludes. -/
def Limits.none : Limits := ⟨Nat.pow 2 64, false, true, Nat.pow 2 64, false⟩

end ReadOnce.Json
