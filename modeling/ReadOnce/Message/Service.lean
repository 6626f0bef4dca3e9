import ReadOnce.Log
import ReadOnce.Message.Check
import ReadOnce.Message.Id
import ReadOnce.Message.Identifier
import ReadOnce.Message.Outcome
import ReadOnce.Randomness
import ReadOnce.Settings.Basic
import ReadOnce.Store.Interface

/-!
The life of a message: a text is encrypted and stored when it is created, and decrypted and destroyed when it
is retrieved. Both operations are machines whose steps make one call to the store each, so that operations
of several callers can take turns between any two calls.
-/
namespace ReadOnce.Message

open Store

/-- How long messages are kept, how often they may be tried, and how large they may be. -/
structure Service where
  retention : Duration
  maxTries : Int
  maxSize : Int
deriving DecidableEq, Repr

def Service.configure (days maxTries maxSize : Int) : Except Duration.DaysFault Service :=
  (Duration.ofDays days).map fun retention => ⟨retention, maxTries, maxSize⟩

def Service.ofSettings (settings : Settings) : Except Duration.DaysFault Service :=
  configure settings.autoDeleteDays settings.maxTries settings.maxMessageSize

/-- What an operation does not answer for. -/
inductive Fault where
  | lock (fault : Envelope.LockFault)
  | store (fault : StoreFault)
deriving DecidableEq, Repr

/-- A value, with the state reached and the records made on the way. -/
structure Run (σ α : Type) where
  result : α
  state : σ
  log : Log

def note (level : Log.Level) (message : String) : Log := [⟨level, .engine, message⟩]

/-- A fault of the store as the end of an operation: out of reach is a failure, all else escapes. -/
def afterFault {α : Type} (doing : String) : StoreFault → Except Fault (Outcome α) × Log
  | .unavailable _ => (.ok (.failure .storeUnavailable ""), note .error ("Store unavailable while " ++ doing))
  | fault => (.error (.store fault), [])

/-- A creation under way. -/
inductive Creation where
  | storing (id envelope : String) (key : Bytes)
  | ended (result : Except Fault (Outcome (Identifier String)))

namespace Creation

variable {ρ σ : Type}

/-- The three draws of a creation: the id, the key, and the initial block of the envelope. -/
def draw (source : RandomSource ρ) (text : String) (dice : ρ) :
    Except Envelope.LockFault (String × String × Bytes) × ρ :=
  match source.bytes Id.length dice with
  | (.error fault, dice) => (.error (.random fault), dice)
  | (.ok id, dice) =>
    match source.bytes Envelope.keyLength dice with
    | (.error fault, dice) => (.error (.random fault), dice)
    | (.ok key, dice) =>
      match Envelope.lock source (Bytes.ofText text) key dice with
      | (.error fault, dice) => (.error fault, dice)
      | (.ok envelope, dice) => (.ok (Id.ofBytes id, envelope, key), dice)

/-- All that comes before the call to the store. -/
def start (service : Service) (source : RandomSource ρ) (text : String) (dice : ρ) : Run ρ Creation :=
  match textFault? service.maxSize text with
  | some fault => ⟨.ended (.ok (.failure .badRequest fault.message)), dice, []⟩
  | none =>
    match draw source text dice with
    | (.ok (id, envelope, key), dice) => ⟨.storing id envelope key, dice, []⟩
    | (.error (.random .unavailable), dice) | (.error (.random .wrongLength), dice) =>
      ⟨.ended (.ok (.failure .randomFailure "")), dice,
        note .error "Random source failed while creating a message"⟩
    | (.error fault, dice) => ⟨.ended (.error (.lock fault)), dice, []⟩

/-- The next call to the store, if there is one left. -/
def step (service : Service) (store : KeyValueStore σ) (now : Instant) (creation : Creation) (state : σ) :
    Run σ Creation :=
  match creation with
  | storing id envelope key =>
    match store.put now (Key.message id) envelope service.retention state with
    | (.ok (), state) =>
      ⟨ended (.ok (.success ⟨id, Base64.encode key⟩)), state, note .info ("Created secret message " ++ id)⟩
    | (.error fault, state) =>
      let (result, log) := afterFault "creating a message" fault
      ⟨ended result, state, log⟩
  | ended result => ⟨ended result, state, []⟩

end Creation

/-- A retrieval under way, by the call that comes next. -/
inductive Retrieval where
  /-- The attempt is counted. -/
  | counting
  /-- Too many attempts: the envelope is removed. -/
  | discarding
  /-- The envelope is read. -/
  | fetching (attempt : Int)
  /-- The envelope is open: only the caller who removes it may have the text. -/
  | claiming (text : String)
  /-- The text is won: the count is removed. -/
  | clearing (text : String)
  | ended (result : Except Fault (Outcome String))

namespace Retrieval

variable {σ : Type}

/-- How many calls may still follow. -/
def remaining : Retrieval → Nat
  | counting => 4
  | fetching _ => 3
  | claiming _ => 2
  | discarding | clearing _ => 1
  | ended _ => 0

/-- The text in an envelope, if the key opens it to one. -/
def reveal? (envelope : String) (key : Bytes) : Option String :=
  match Envelope.unlock envelope key with
  | .ok bytes => Bytes.toText? bytes
  | .error _ => none

def attemptNote (id : String) (attempt : Int) : String :=
  id ++ " (attempt " ++ toString attempt ++ ")"

/-- What the envelope found under the id leads to. -/
def examine (id : String) (key : Bytes) (attempt : Int) : Option String → Retrieval × Log
  | none =>
    (ended (.ok (.failure .notFound "")),
      note .info ("Message " ++ id ++ " not found (attempt " ++ toString attempt ++ ")"))
  | some envelope =>
    match reveal? envelope key with
    | some text => (claiming text, [])
    | none =>
      (ended (.ok (.failure .badKeyOrCorruption "")),
        note .warning ("Failed to open message " ++ attemptNote id attempt))

def fail (id : String) (fault : StoreFault) (state : σ) : Run σ Retrieval :=
  let (result, log) := afterFault ("retrieving " ++ id) fault
  ⟨ended result, state, log⟩

/-- The next call to the store, if there is one left. -/
def step (service : Service) (store : KeyValueStore σ) (id : String) (key : Bytes) (now : Instant)
    (retrieval : Retrieval) (state : σ) : Run σ Retrieval :=
  match retrieval with
  | counting =>
    match store.increment now (Key.attempts id) (some service.retention) state with
    | (.error fault, state) => fail id fault state
    | (.ok attempt, state) =>
      ⟨if service.maxTries < attempt then discarding else fetching attempt, state, []⟩
  | discarding =>
    match store.delete now (Key.message id) state with
    | (.error fault, state) => fail id fault state
    | (.ok _, state) =>
      ⟨ended (.ok .exhausted), state,
        note .warning ("Attempt budget exhausted for " ++ id ++ ", message deleted")⟩
  | fetching attempt =>
    match store.get now (Key.message id) state with
    | (.error fault, state) => fail id fault state
    | (.ok envelope, state) =>
      let (next, log) := examine id key attempt envelope
      ⟨next, state, log⟩
  | claiming text =>
    match store.delete now (Key.message id) state with
    | (.error fault, state) => fail id fault state
    | (.ok true, state) => ⟨clearing text, state, []⟩
    | (.ok false, state) => ⟨ended (.ok (.failure .notFound "")), state, []⟩
  | clearing text =>
    match store.delete now (Key.attempts id) state with
    | (.error fault, state) => fail id fault state
    | (.ok _, state) =>
      ⟨ended (.ok (.success text)), state,
        note .info ("Secret message " ++ id ++ " retrieved and destroyed")⟩
  | ended result => ⟨ended result, state, []⟩

/-- Several calls in a row at one time. -/
def steps (service : Service) (store : KeyValueStore σ) (id : String) (key : Bytes) (now : Instant) :
    Nat → Retrieval → σ → Run σ Retrieval
  | 0, retrieval, state => ⟨retrieval, state, []⟩
  | count + 1, retrieval, state =>
    let first := step service store id key now retrieval state
    let rest := steps service store id key now count first.result first.state
    ⟨rest.result, rest.state, first.log ++ rest.log⟩

/-- The end of a retrieval that no more calls follow. -/
def result : Retrieval → Except Fault (Outcome String)
  | ended result => result
  | _ => .ok (.failure .internal "")

end Retrieval

variable {ρ σ : Type}

/-- The end of a creation that no more calls follow. -/
def Creation.result : Creation → Except Fault (Outcome (Identifier String))
  | ended result => result
  | _ => .ok (.failure .internal "")

/-- Creates a message in one go. -/
def Service.create (service : Service) (source : RandomSource ρ) (store : KeyValueStore σ) (now : Instant)
    (text : String) (state : ρ × σ) : Run (ρ × σ) (Except Fault (Outcome (Identifier String))) :=
  let begun := Creation.start service source text state.1
  let done := begun.result.step service store now state.2
  ⟨done.result.result, (begun.state, done.state), begun.log ++ done.log⟩

/-- Retrieves a message in one go. -/
def Service.retrieve (service : Service) (store : KeyValueStore σ) (now : Instant) (id key : String)
    (state : σ) : Run σ (Except Fault (Outcome String)) :=
  match keyOf id key with
  | .error fault => ⟨.ok (.failure .badRequest fault.message), state, []⟩
  | .ok bytes =>
    let done := Retrieval.steps service store id bytes now Retrieval.counting.remaining .counting state
    ⟨done.result.result, done.state, done.log⟩

end ReadOnce.Message
