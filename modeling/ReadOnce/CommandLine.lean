import ReadOnce.Text.Quoted
import ReadOnce.Text.Similarity

/-!
The command line. Options may stand anywhere before two dashes, and letters of one dash may be joined. A wrong
option is refused before help is given, and help is given before what is left over is refused.
-/
namespace ReadOnce.CommandLine

inductive Switch where
  | withoutStatus
  | help
deriving DecidableEq, Repr

/-- The options with two dashes, and those of a single letter. -/
def words : List (String × Switch) := [("--no-http", .withoutStatus), ("--help", .help)]
def letters : List (Char × Switch) := [('h', .help)]

/-- What is asked for. -/
inductive Request where
  | help
  | start (withStatus : Bool)
deriving DecidableEq, Repr

inductive Fault where
  | unknownWord (name : String)
  | unknownLetter (letter : Char)
  | needlessValue (name : String)
  | leftOver (arguments : List String)
deriving DecidableEq, Repr

namespace Fault

private def quote (name : String) : String := String.ofList (Text.quoted (.ofString name))

/-- The options that a name was perhaps meant to be. -/
def suggestions (name : String) : List String :=
  ((words.map (·.1)).filter fun word => Text.isClose word.toList name.toList).mergeSort (· ≤ ·)

private def suggestion (name : String) : String :=
  match suggestions name with
  | [] => ""
  | [word] => " Did you mean " ++ quote word ++ "?"
  | words => " (Did you mean one of: " ++ ", ".intercalate (words.map quote) ++ "?)"

def message : Fault → String
  | unknownWord name => "No such option " ++ quote name ++ "." ++ suggestion name
  | unknownLetter letter => "No such option " ++ quote (String.ofList ['-', letter]) ++ "."
  | needlessValue name => "Option " ++ quote name ++ " does not take a value."
  | leftOver [argument] => "Got unexpected extra argument (" ++ argument ++ ")"
  | leftOver arguments => "Got unexpected extra arguments (" ++ " ".intercalate arguments ++ ")"

/-- What is printed. How to use the program is added unless only a value was too much. -/
def output (fault : Fault) : String :=
  let usage := match fault with
    | needlessValue _ => ""
    | _ => "Usage: secretbroker [OPTIONS]\nTry 'secretbroker --help' for help.\n\n"
  usage ++ "Error: " ++ fault.message ++ "\n"

end Fault

def helpText : String :=
  "Usage: secretbroker [OPTIONS]\n\n  One-time-read secret message broker.\n\nOptions:\n" ++
    "  --no-http   Serve NATS only, without the /status endpoint.\n" ++
    "  -h, --help  Show this message and exit.\n"

/-- The switches of joined letters. -/
private def readLetters (characters : List Char) : Except Fault (List Switch) :=
  characters.mapM fun letter =>
    match letters.lookup letter with
    | some switch => .ok switch
    | none => .error (.unknownLetter letter)

/-- The switches of an argument that starts with a dash. What stands behind an equals sign is a value, which no
option takes. -/
private def readOption (argument : List Char) : Except Fault (List Switch) :=
  let name := argument.takeWhile (· ≠ '=')
  match words.find? (·.1.toList = name) with
  | some (word, switch) => if name.length < argument.length then .error (.needlessValue word) else .ok [switch]
  | none =>
    if argument.take 2 = ['-', '-'] then .error (.unknownWord (String.ofList name))
    else readLetters (argument.drop 1)

/-- The switches of all arguments, and the arguments that are left over. -/
private def readAll : List String → Except Fault (List Switch × List String)
  | [] => .ok ([], [])
  | argument :: rest =>
    if argument = "--" then .ok ([], rest)
    else if argument.toList.head? = some '-' ∧ argument ≠ "-" then do
      let switches ← readOption argument.toList
      let (others, leftOver) ← readAll rest
      return (switches ++ others, leftOver)
    else do
      let (switches, leftOver) ← readAll rest
      return (switches, argument :: leftOver)

def parse (arguments : List String) : Except Fault Request := do
  let (switches, leftOver) ← readAll arguments
  if switches.contains .help then return .help
  if leftOver ≠ [] then throw (.leftOver leftOver)
  return .start (!switches.contains .withoutStatus)

end ReadOnce.CommandLine
