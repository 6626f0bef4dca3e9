import ReadOnce.Text.Wide

/-!
JSON values. An object keeps every member in the order of the document; a name that occurs more than once
stands for its last value, at the place where it occurs first.
-/
namespace ReadOnce

inductive Json where
  | null
  | bool (value : Bool)
  | int (value : Int)
  | float (value : Float)
  | str (value : WideText)
  | arr (items : List Json)
  | obj (members : List (WideText × Json))
deriving Inhabited

namespace Json

/-- A string without surrogates. -/
def text (value : String) : Json := str (WideText.ofString value)

/-- The last value under a name. -/
def lookup? (name : String) (members : List (WideText × Json)) : Option Json :=
  (members.reverse.find? (·.1 = WideText.ofString name)).map (·.2)

/-- Sets a name, in place where it is there already. -/
def setMember (name : WideText) (value : Json) : List (WideText × Json) → List (WideText × Json)
  | [] => [(name, value)]
  | member :: rest =>
    if member.1 = name then (name, value) :: rest else member :: setMember name value rest

/-- The members with each name once. -/
def distinct (members : List (WideText × Json)) : List (WideText × Json) :=
  members.foldl (fun done member => setMember member.1 member.2 done) []

mutual

/-- The value with each name once in every object. -/
def unique : Json → Json
  | arr items => arr (uniqueItems items)
  | obj members => obj (distinct (uniqueMembers members))
  | value => value

def uniqueItems : List Json → List Json
  | [] => []
  | item :: rest => unique item :: uniqueItems rest

def uniqueMembers : List (WideText × Json) → List (WideText × Json)
  | [] => []
  | (name, value) :: rest => (name, unique value) :: uniqueMembers rest

end

/-- The value of a name in an object. -/
def field? (name : String) : Json → Option Json
  | obj members => lookup? name members
  | _ => none

/-- The text of a string without surrogates. -/
def asText? : Json → Option String
  | str value => value.toString?
  | _ => none

end Json
end ReadOnce
