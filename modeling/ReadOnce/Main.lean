import ReadOnce.Log.Setup
import ReadOnce.Program
import ReadOnce.Rehearsal.Bus
import ReadOnce.Rehearsal.Database
import ReadOnce.Status

/-!
The program on its standard streams, in place of a network. A line holds the subject of a request and its body,
or a method and the path of a page; the reply is printed on a line of its own, and records go to standard error.
-/
namespace ReadOnce.Main

open Rehearsal

/-- The variables that count. -/
def environment : IO Settings.Environment :=
  Settings.Environment.allNames.filterMapM fun name =>
    return (← IO.getEnv name).map (name, ·)

/-- The time as far as it is known, in microseconds. -/
def clock : IO Instant := return (← IO.monoNanosNow) / 1000

/-- A random source for one request. -/
def drawn : IO Dice := do
  let bytes ← IO.getRandomBytes 64
  return ⟨.cycle bytes.data 0, 0, [], none⟩

def record (setup : Log.Setup) (log : Log) : IO Unit :=
  for entry in setup.admitted log do IO.eprintln entry.line

/-- Answers a request of the bus. -/
def answer (setup : Log.Setup) (subject body : String) (bus : Bus) : IO Bus := do
  let bus := { bus with now := ← clock, world := (← drawn, bus.world.2), events := [], log := [] }
  let (reply, bus) := bus.request subject (Bytes.ofText body)
  record setup bus.log
  match reply with
  | .ok (some reply) => IO.println reply
  | .ok none => pure ()
  | .error missing => IO.eprintln ("No one is subscribed to " ++ missing.message)
  return bus

/-- Answers line by line, until the input ends. -/
partial def serve (setup : Log.Setup) (withStatus : Bool) (bus : Bus) : IO Bus := do
  let line ← (← IO.getStdin).getLine
  if line.isEmpty then return bus
  let (word, rest) := Program.splitLine (line.trimAsciiEnd).copy
  if withStatus && Status.methods.contains word then
    match Status.respond word rest with
    | some response => IO.print response.body
    | none => IO.eprintln "Not an address"
    serve setup withStatus bus
  else serve setup withStatus (← answer setup word rest bus)

/-- Serves from start to stop. -/
def run (setup : Log.Setup) (withStatus : Bool) (settings : Settings) : IO UInt32 := do
  match Broker.ofSettings settings, built settings with
  | .ok broker, .ok backend =>
    let started := (Bus.ofBroker broker (Rehearsal.world (← drawn) backend) (← clock)).start
    record setup started.log
    let served ← serve setup withStatus started
    record setup { served with log := [] }.stop.log
    return 0
  | .error fault, _ => IO.eprintln fault.message; return 1
  | _, .error fault => IO.eprintln fault.message; return 1

/-- Sets one task after another to work; the first that fails is the last. -/
def perform (setup : Log.Setup) : List Program.Task → IO UInt32
  | [] => return 0
  | .setUpLog level :: rest =>
    match setup.configure level with
    | .ok setup => perform setup rest
    | .error fault => do IO.eprintln fault.message; return 1
  | .serve settings :: _ => run setup false settings
  | .serveWithStatus settings :: _ => run setup true settings

end ReadOnce.Main

def main (arguments : List String) : IO UInt32 := do
  let plan := ReadOnce.Program.plan arguments (← ReadOnce.Main.environment)
  IO.print plan.ending.output
  for issue in plan.ending.issues do IO.eprintln issue.line
  if plan.ending.exitCode = 0 then ReadOnce.Main.perform .initial plan.tasks
  else return plan.ending.exitCode.toUInt32
