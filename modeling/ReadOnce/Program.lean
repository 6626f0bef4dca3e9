import ReadOnce.CommandLine
import ReadOnce.Log
import ReadOnce.Settings.Environment

/-!
The program as a whole: which of its parts it sets to work for a command line and an environment, and how it
ends. Nothing is set to work before the command line and the settings have been found right.
-/
namespace ReadOnce

namespace Program

/-- What the program is called, and what is said of it. -/
def title : String := "Secret Broker"
def version : String := "1.0.0"
def description : String := "One-time-read secret messages over NATS"

inductive Task where
  | setUpLog (level : String)
  /-- Serves the bus alone, until interrupted. -/
  | serve (settings : Settings)
  /-- Serves the bus and, over the web, its own status. -/
  | serveWithStatus (settings : Settings)

inductive Ending where
  | done
  | helped
  | misused (fault : CommandLine.Fault)
  | misconfigured (issues : List Validation.Issue)

def Ending.exitCode : Ending → Nat
  | done | helped => 0
  | misused _ => 2
  | misconfigured _ => 1

def Ending.output : Ending → String
  | helped => CommandLine.helpText
  | misused fault => fault.output
  | done | misconfigured _ => ""

def Ending.issues : Ending → List Validation.Issue
  | misconfigured issues => issues
  | _ => []

structure Plan where
  tasks : List Task
  ending : Ending

def plan (arguments : List String) (environment : Settings.Environment) : Plan :=
  match CommandLine.parse arguments with
  | .error fault => ⟨[], .misused fault⟩
  | .ok .help => ⟨[], .helped⟩
  | .ok (.start withStatus) =>
    match Settings.ofEnvironment environment with
    | .error issues => ⟨[], .misconfigured issues⟩
    | .ok settings =>
      ⟨[.setUpLog settings.logLevel, if withStatus then .serveWithStatus settings else .serve settings], .done⟩

/-- The first word of a line, and what follows the space behind it. -/
def splitLine (line : String) : String × String :=
  let word := line.toList.takeWhile (· ≠ ' ')
  (String.ofList word, String.ofList (line.toList.drop (word.length + 1)))

/-- What is recorded when a task is interrupted from outside. -/
def Task.interrupted : Task → Log
  | serve _ => [⟨.info, .program, "Interrupted, broker stopped"⟩]
  | _ => []

end Program
end ReadOnce
