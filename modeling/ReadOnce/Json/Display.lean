import ReadOnce.Decimal.Layout
import ReadOnce.Json.Basic
import ReadOnce.Text.Quoted

/-! JSON values as they are shown to people: texts in quotes unless they stand alone, names once. -/
namespace ReadOnce.Json

mutual

/-- A value within others, in which no object has a name twice. -/
def shown : Json → List Char
  | null => "None".toList
  | bool value => (if value then "True" else "False").toList
  | int value => (toString value).toList
  | float value => (Decimal.display.write value).toList
  | str value => Text.quoted value
  | arr items => '[' :: (shownItems items ++ [']'])
  | obj members => '\x7b' :: (shownMembers members ++ ['\x7d'])

def shownItems : List Json → List Char
  | [] => []
  | [item] => shown item
  | item :: rest => shown item ++ ',' :: ' ' :: shownItems rest

def shownMembers : List (WideText × Json) → List Char
  | [] => []
  | [(name, value)] => Text.quoted name ++ ':' :: ' ' :: shown value
  | (name, value) :: rest =>
    Text.quoted name ++ ':' :: ' ' :: (shown value ++ ',' :: ' ' :: shownMembers rest)

end

/-- A value that stands alone. -/
def display : Json → WideText
  | str value => value
  | value => value.unique.shown.map .char

end ReadOnce.Json
