/-!
Texts that may hold surrogates which stand alone. An ordinary text widens to one, and a wide text narrows to
an ordinary one exactly when it holds no surrogate.
-/
namespace ReadOnce

/-- A character, or one of the 2048 surrogates, which alone stand for no character. -/
inductive CodePoint where
  | char (value : Char)
  | surrogate (offset : Fin 2048)
deriving DecidableEq, Repr, Inhabited

namespace CodePoint

def toNat : CodePoint → Nat
  | char value => value.toNat
  | surrogate offset => 0xD800 + offset.val

/-- The code point with a number, which is below 0x110000. -/
def ofNat (value : Nat) : CodePoint :=
  if inside : 0xD800 ≤ value ∧ value < 0xE000 then surrogate ⟨value - 0xD800, by omega⟩
  else char (Char.ofNat value)

def toChar? : CodePoint → Option Char
  | char value => some value
  | surrogate _ => none

def isHigh : CodePoint → Bool
  | char _ => false
  | surrogate offset => offset.val < 0x400

def isLow : CodePoint → Bool
  | char _ => false
  | surrogate offset => offset.val ≥ 0x400

/-- The character that a high and a low surrogate write together. -/
def join (high low : CodePoint) : CodePoint :=
  ofNat (0x10000 + (high.toNat - 0xD800) * 0x400 + (low.toNat - 0xDC00))

end CodePoint

abbrev WideText := List CodePoint

namespace WideText

def ofString (text : String) : WideText := text.toList.map .char

def toString? (text : WideText) : Option String := (text.mapM CodePoint.toChar?).map String.ofList

@[simp] theorem toString?_ofString (text : String) : toString? (ofString text) = some text := by
  have chars : ∀ list : List Char, (list.map CodePoint.char).mapM CodePoint.toChar? = some list := by
    intro list
    induction list with
    | nil => rfl
    | cons char rest ih => simp [List.mapM_cons, CodePoint.toChar?, ih]
  simp [toString?, ofString, chars]

theorem ofString_inj {first second : String} : ofString first = ofString second ↔ first = second := by
  constructor
  · intro same
    rw [← Option.some_inj, ← toString?_ofString first, same, toString?_ofString]
  · exact congrArg ofString

/-- A text under construction from numbered units, where a high surrogate and a low one right after it are
one character. The last high surrogate is held back until the next unit is known. -/
structure Builder where
  done : Array CodePoint
  held : Option CodePoint

namespace Builder

def empty : Builder := ⟨#[], none⟩

/-- The code points so far. -/
def points (builder : Builder) : Array CodePoint :=
  match builder.held with
  | some high => builder.done.push high
  | none => builder.done

/-- Adds a unit given by number. -/
def addUnit (builder : Builder) (unit : CodePoint) : Builder :=
  if unit.isHigh then ⟨builder.points, some unit⟩
  else
    match builder.held with
    | some high =>
      if unit.isLow then ⟨builder.done.push (high.join unit), none⟩ else ⟨(builder.done.push high).push unit, none⟩
    | none => ⟨builder.done.push unit, none⟩

/-- Adds a code point that stands for itself. -/
def add (builder : Builder) (point : CodePoint) : Builder := ⟨builder.points.push point, none⟩

def toText (builder : Builder) : WideText := builder.points.toList

end Builder
end WideText
end ReadOnce
