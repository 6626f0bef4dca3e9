import ReadOnce.Log
import ReadOnce.Text.Quoted
import ReadOnce.Text.UpperCase

/-!
Setting up what is recorded and how. It is done once: later on only the level below which nothing is recorded
changes. A level is given by name, whatever the case of its letters.
-/
namespace ReadOnce.Log

/-- How a record is laid out. -/
def layout : String := "%(asctime)s %(levelname)s %(name)s: %(message)s"

/-- What each name stands for: the rank of a level, under one or two names, or nothing at all. -/
def thresholds : List (String × Nat) :=
  [("CRITICAL", Level.critical.rank), ("FATAL", Level.critical.rank), ("ERROR", Level.error.rank),
    ("WARNING", Level.warning.rank), ("WARN", Level.warning.rank), ("INFO", Level.info.rank),
    ("DEBUG", Level.debug.rank), ("NOTSET", 0)]

theorem lookup_thresholds_name (level : Level) : thresholds.lookup level.name = some level.rank := by
  cases level <;> decide

structure UnknownLevel where
  name : String
deriving DecidableEq, Repr

def UnknownLevel.message (fault : UnknownLevel) : String :=
  "Unknown level: " ++ String.ofList (Text.quoted (.ofString fault.name))

def threshold (name : String) : Except UnknownLevel Nat :=
  let plain := Text.upperCase name
  match thresholds.lookup plain with
  | some level => .ok level
  | none => .error ⟨plain⟩

/-- What is recorded: the level for all, the level for the bus alone, and the layouts in use. -/
structure Setup where
  level : Nat
  busLevel : Nat
  layouts : List String
deriving DecidableEq, Repr

namespace Setup

def initial : Setup := ⟨Level.warning.rank, 0, []⟩

/-- Sets the level. The first time a layout is chosen too, and the bus is left to speak of warnings only. -/
def configure (name : String) (setup : Setup) : Except UnknownLevel Setup :=
  (threshold name).map fun level =>
    if setup.layouts.isEmpty then ⟨level, Level.warning.rank, [layout]⟩ else { setup with level }

/-- The records that are let through. -/
def admitted (setup : Setup) (log : Log) : Log :=
  if setup.layouts.isEmpty then [] else log.filter fun record => setup.level ≤ record.level.rank

end Setup
end ReadOnce.Log
