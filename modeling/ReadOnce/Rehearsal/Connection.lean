import ReadOnce.Store.Address
import ReadOnce.Store.Remote
import ReadOnce.Store.Table

/-!
What answers in a rehearsal where a server or a database would. A scripted connection hands out prepared answers,
one for each command, and nothing when they are used up. A database answers within the process, or in a file where
there is room for one.
-/
namespace ReadOnce.Rehearsal

open Store

structure Script where
  /-- The answers that are left. -/
  answers : List (Except Trouble Answer)
  /-- The commands so far. -/
  sent : List Command

def script : Connection Script where
  send command script :=
    (script.answers.headD (.ok (.value .null)),
      { answers := script.answers.drop 1, sent := script.sent ++ [command] })

/-- Why a database is not opened. -/
inductive OpenFault where
  | address (fault : AddressFault)
  /-- There is no such kind of database, or no such driver for it. -/
  | unknownKind
  /-- The driver is not at hand. -/
  | noDriver
  /-- A database within the process has no server. -/
  | misplaced
deriving DecidableEq, Repr

def OpenFault.message : OpenFault → String
  | address fault => fault.message
  | unknownKind => "There is no such kind of database, or no such driver for it"
  | noDriver => "The driver is not at hand"
  | misplaced => "A database within the process has no server"

/-- The driver of the databases within the process. -/
def embeddedDriver : String := "pysqlite"

/-- The drivers that are at hand. -/
def driversAtHand : List String := [embeddedDriver, "psycopg2"]

/-- The steps of a path from one directory to the next, slashes being the marks between them. -/
def steps (path : Bytes) : List Bytes :=
  path.foldr (fun byte steps =>
    if byte = 47 then [] :: steps
    else match steps with
      | [] => [[byte]]
      | first :: rest => (byte :: first) :: rest) [[]]

/-- A path without the steps that stay in place, and without those that a step upwards takes back. -/
def resolved (path : Bytes) : List Bytes :=
  (steps path).foldl (fun taken step =>
    if step = [] ∨ step = [46] then taken
    else if step = [46, 46] then taken.dropLast
    else taken ++ [step]) []

/-- The directory for passing files, at the top of all. -/
def passing : Bytes := Bytes.ofText "tmp"

/-- The directories at the top of all, where no file can be. -/
def topmost : List Bytes :=
  passing :: ["bin", "dev", "etc", "home", "lib", "opt", "proc", "root", "run", "sys", "usr", "var"].map Bytes.ofText

/-- Whether a file can be made: in the current directory, the topmost one or that for passing files. -/
def hasRoom (file : Bytes) : Bool :=
  match resolved file with
  | [name] => file.head? ≠ some 47 || !topmost.contains name
  | [directory, _] => file.head? = some 47 && directory = passing
  | _ => false

/-- Whether the database of an address answers, if there is a way to ask it. -/
def reach (url : String) : Except OpenFault Reach := do
  let address ← (Address.read url).mapError .address
  let some driver := address.driver? | throw .unknownKind
  if !driversAtHand.contains driver then throw .noDriver
  if driver ≠ embeddedDriver then return .unreachable
  if address.hasServer then throw .misplaced
  let file := address.database.getD []
  return if file.isEmpty || file = Bytes.ofText ":memory:" || hasRoom file then .ready else .unreachable

end ReadOnce.Rehearsal
