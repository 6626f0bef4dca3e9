import ReadOnce.Decimal.Whole
import ReadOnce.Json.Basic
import ReadOnce.Log
import ReadOnce.Store.Interface

/-!
The store on a server of its own, reached by commands over a connection. An increment takes two commands where
the counter begins: one that counts, and one that says how long the counter is kept.
-/
namespace ReadOnce.Store

/-- How long the server keeps an entry. -/
inductive Lifetime where
  | lasting (duration : Duration)
  /-- One millisecond, the least that the server takes. -/
  | shortest
deriving DecidableEq, Repr

def Lifetime.ofDuration (duration : Duration) : Lifetime :=
  if 0 < duration then lasting duration else shortest

inductive Command where
  | set (key value : String) (lifetime : Lifetime)
  | get (key : String)
  | delete (key : String)
  | increment (key : String)
  | expire (key : String) (lifetime : Lifetime)
  | ping
  | close
deriving DecidableEq, Repr

/-- What comes back for a command. -/
inductive Answer where
  | value (value : Json)
  | bytes (raw : Bytes)

inductive TroubleKind where
  | server
  | connection
  | timeout
  | response
  | system
  | internal
deriving DecidableEq, Repr

/-- Why nothing came back for a command. -/
structure Trouble where
  kind : TroubleKind
  reason : String
deriving DecidableEq, Repr

/-- Whether the server is at fault, or the way to it. -/
def Trouble.isRemote (trouble : Trouble) : Bool := trouble.kind ≠ .system && trouble.kind ≠ .internal

/-- A connection with states of type `σ`. -/
structure Connection (σ : Type) where
  send : Command → σ → Except Trouble Answer × σ

inductive RemoteFault where
  | unavailable (reason : String)
  | trouble (trouble : Trouble)
  /-- Bytes that are no text. -/
  | encoding
  /-- An answer of a kind that has no meaning for the command. -/
  | answerKind
  | counter (fault : Text.NumeralFault)
  | whole (fault : Decimal.WholeFault)
deriving DecidableEq, Repr

/-- What trouble with a command means for the call that sent it. -/
def Trouble.during (command : String) (trouble : Trouble) : RemoteFault :=
  if trouble.isRemote then .unavailable ("redis " ++ command ++ " failed") else .trouble trouble

namespace Answer

/-- The stored value: a text, if it came as bytes. -/
def content : Answer → Except RemoteFault Json
  | value json => .ok json
  | bytes raw =>
    match Bytes.toText? raw with
    | some text => .ok (.text text)
    | none => .error .encoding

/-- The answer as a count. -/
def count : Answer → Except RemoteFault Int
  | bytes raw => (Text.Numeral.parseBytes raw).mapError .counter
  | value (.int number) => .ok number
  | value (.bool flag) => .ok (if flag then 1 else 0)
  | value (.float number) => (Decimal.whole number).mapError .whole
  | value (.str text) =>
    match text.toString? with
    | some text => (Text.Numeral.parse text).mapError .counter
    | none => .error (.counter (.invalid (String.ofList ((Text.quoted text).take Text.Numeral.shownLimit))))
  | value _ => .error .answerKind

/-- Whether the answer is a number above zero. -/
def isPositive : Answer → Except RemoteFault Bool
  | value (.int number) => .ok (decide (0 < number))
  | value (.bool flag) => .ok flag
  | value (.float number) => .ok (decide (0.0 < number))
  | _ => .error .answerKind

/-- Whether the answer is something: neither nothing nor zero nor empty. -/
def isSomething : Answer → Bool
  | bytes raw => !raw.isEmpty
  | value .null => false
  | value (.bool flag) => flag
  | value (.int number) => number ≠ 0
  | value (.float number) => number != 0.0
  | value (.str text) => !text.isEmpty
  | value (.arr items) => !items.isEmpty
  | value (.obj members) => !members.isEmpty

end Answer

namespace Connection

variable {σ α : Type}

/-- Sends a command and makes something of the answer. -/
def ask (connection : Connection σ) (name : String) (command : Command)
    (meaning : Answer → Except RemoteFault α) (state : σ) : Except RemoteFault α × σ :=
  match connection.send command state with
  | (.ok answer, state) => (meaning answer, state)
  | (.error trouble, state) => (.error (trouble.during name), state)

def put (connection : Connection σ) (key value : String) (duration : Duration) :
    σ → Except RemoteFault Unit × σ :=
  connection.ask "set" (.set key value (.ofDuration duration)) fun _ => .ok ()

def get (connection : Connection σ) (key : String) : σ → Except RemoteFault Json × σ :=
  connection.ask "get" (.get key) Answer.content

def delete (connection : Connection σ) (key : String) : σ → Except RemoteFault Bool × σ :=
  connection.ask "delete" (.delete key) Answer.isPositive

/-- Adds one to a counter. A counter that begins is given its lifetime by a command of its own. -/
def increment (connection : Connection σ) (key : String) (duration : Option Duration) (state : σ) :
    Except RemoteFault Int × σ :=
  match connection.ask "incr" (.increment key) Answer.count state, duration with
  | (.ok 1, state), some duration =>
    connection.ask "incr" (.expire key (.ofDuration duration)) (fun _ => .ok 1) state
  | counted, _ => counted

/-- Whether the server answers; that it cannot be reached is recorded. -/
def ping (connection : Connection σ) (state : σ) : Except RemoteFault (Bool × Log) × σ :=
  match connection.send .ping state with
  | (.ok answer, state) => (.ok (answer.isSomething, []), state)
  | (.error trouble, state) =>
    if trouble.isRemote then (.ok (false, [⟨.warning, .remoteStore, "Redis ping failed"⟩]), state)
    else (.error (.trouble trouble), state)

def close (connection : Connection σ) (state : σ) : Except RemoteFault Unit × σ :=
  match connection.send .close state with
  | (.ok _, state) => (.ok (), state)
  | (.error trouble, state) => (.error (.trouble trouble), state)

end Connection
end ReadOnce.Store
