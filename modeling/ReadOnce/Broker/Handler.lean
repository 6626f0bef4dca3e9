import ReadOnce.Broker.Reply
import ReadOnce.Message.Service

/-! The answers to requests: the body of a request to save or to receive is mapped to the body of a reply. -/
namespace ReadOnce.Broker

open Message Store

/-- The two kinds of request. -/
inductive Subject where
  | save
  | receive
deriving DecidableEq, Repr

def Subject.name : Subject → String
  | save => "save.msg"
  | receive => "receive.msg"

def Subject.all : List Subject := [save, receive]

def Subject.ofName? (name : String) : Option Subject := all.find? (·.name = name)

namespace Handler

variable {ρ σ : Type}

def warn (message : String) : Log := [⟨.warning, .dispatcher, message⟩]

/-- The reply to a request to save a text. -/
def save (service : Service) (source : RandomSource ρ) (store : KeyValueStore σ) (now : Instant)
    (body : Bytes) (state : ρ × σ) : Run (ρ × σ) (Except Fault String) :=
  let refuse (message record : String) : Run (ρ × σ) (Except Fault String) :=
    ⟨.ok (Reply.error message), state, warn record⟩
  if body.isEmpty then
    refuse TextFault.empty.message "Received empty message for secret message creation"
  else if service.maxSize < body.length then
    refuse (sizeMessage service.maxSize)
      ("Received message exceeding size limit: " ++ toString body.length ++ " bytes")
  else
    match Bytes.toText? body with
    | none => refuse "Message must be valid UTF-8" "Received message that is not valid UTF-8"
    | some text =>
      let run := service.create source store now text state
      match run.result with
      | .error fault => ⟨.error fault, run.state, run.log⟩
      | .ok (.success identifier) => ⟨.ok identifier.write, run.state, run.log⟩
      | .ok .exhausted => ⟨.ok Reply.internal, run.state, run.log⟩
      | .ok (.failure kind message) =>
        ⟨.ok (Reply.failure (some kind) message), run.state,
          run.log ++ warn ("Secret message creation rejected: " ++ kind.name)⟩

/-- The reply to a request to receive a message. -/
def receive (service : Service) (store : KeyValueStore σ) (now : Instant) (body : Bytes) (state : σ) :
    Run σ (Except Fault String) :=
  let refuse (message record : String) : Run σ (Except Fault String) :=
    ⟨.ok (Reply.error message), state, warn record⟩
  if body.isEmpty then
    refuse "Message identifier cannot be empty" "Received empty message for secret message retrieval"
  else if service.maxSize < body.length then
    refuse (sizeMessage service.maxSize)
      ("Received identifier exceeding size limit: " ++ toString body.length ++ " bytes")
  else
    match Identifier.read body with
    | .error _ => refuse "Invalid message identifier format" "Failed to parse message identifier"
    | .ok identifier =>
      let run := service.retrieve store now identifier.messageId identifier.aesKey state
      match run.result with
      | .error fault => ⟨.error fault, run.state, run.log⟩
      | .ok (.success text) => ⟨.ok (Json.quote text), run.state, run.log⟩
      | .ok .exhausted => ⟨.ok (Json.quote exhaustedText), run.state, run.log⟩
      | .ok (.failure kind message) =>
        let shown := String.ofList (identifier.messageId.toList.take 100)
        ⟨.ok (Reply.failure (some kind) message), run.state,
          run.log ++ warn ("Retrieval of " ++ shown ++ " failed: " ++ kind.name)⟩

/-- The reply to a request on a subject. -/
def answer (subject : Subject) (service : Service) (source : RandomSource ρ) (store : KeyValueStore σ)
    (now : Instant) (body : Bytes) (state : ρ × σ) : Run (ρ × σ) (Except Fault String) :=
  match subject with
  | .save => save service source store now body state
  | .receive =>
    let run := receive service store now body state.2
    ⟨run.result, (state.1, run.state), run.log⟩

end Handler
end ReadOnce.Broker
