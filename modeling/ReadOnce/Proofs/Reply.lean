import ReadOnce.Broker.Dispatcher
import ReadOnce.Proofs.Handler
import ReadOnce.Store.Backend

/-!
The replies of the broker, as its clients take them. A reply is a text, an error or an identifier, whatever was asked
and whatever went wrong, and the parser of the client tells the three apart and gives back what was written.
-/
namespace ReadOnce

namespace Broker

open Message Store

/-- What a reply may be. -/
inductive Reply.Form : String → Prop where
  | text (text : String) : Form (Json.quote text)
  | error (message : String) : Form (Reply.error message)
  | identifier (identifier : Identifier String) : Form identifier.write

variable {ρ σ : Type} {service : Service} {source : RandomSource ρ} {store : KeyValueStore σ} {now : Instant}

theorem Handler.save_form {body : Bytes} {world : ρ × σ} {reply : String}
    (replied : (Handler.save service source store now body world).result = .ok reply) : Reply.Form reply := by
  rcases save_cases service source store now body world with
    ⟨message, refused, _⟩ | ⟨text, _, _, ⟨message, refused⟩ | ⟨identifier, _, written⟩⟩
  · rw [refused] at replied
    cases replied
    exact .error message
  · rw [replied] at refused
    obtain rfl : reply = Reply.error message := refused
    exact .error message
  · rw [written] at replied
    cases replied
    exact .identifier identifier

theorem Handler.receive_form {body : Bytes} {state : σ} {reply : String}
    (replied : (Handler.receive service store now body state).result = .ok reply) : Reply.Form reply := by
  unfold receive at replied
  dsimp only at replied
  split at replied
  · cases replied
    exact .error _
  split at replied
  · cases replied
    exact .error _
  split at replied
  · cases replied
    exact .error _
  split at replied
  · cases replied
  · cases replied
    exact .text _
  · cases replied
    exact .text _
  · cases replied
    exact .error _

/-- Whatever is published for a job is a text, an error or an identifier. -/
theorem Job.published_form (job : Job) (world : ρ × σ) {attempt : Attempt}
    (published : attempt ∈ Dispatcher.attempts? job (job.answer service source store now world).result) :
    Reply.Form attempt.body := by
  obtain ⟨number, subject, address, body⟩ := job
  unfold Dispatcher.attempts? at published
  split at published
  · cases published
  next addressed =>
  rw [List.mem_singleton] at published
  subst published
  simp only [answer, if_neg addressed]
  cases replied : (Handler.answer subject service source store now body world).result with
  | error fault => exact .error Reply.internalText
  | ok reply =>
    show Reply.Form reply
    cases subject with
    | save => exact Handler.save_form replied
    | receive => exact @Handler.receive_form σ service store now body world.2 reply replied

end Broker

namespace Client

open Message Store Broker

/-- The parser of the client undoes all that is published for a request: a text comes back as itself whatever is in it,
an error is raised with its own message, and an identifier is read as the id and the key that were written. -/
theorem payload_published {ρ σ : Type} (service : Service) (source : RandomSource ρ) (store : KeyValueStore σ)
    (now : Instant) :
    (∀ (job : Job) (world : ρ × σ),
      ∀ attempt ∈ Dispatcher.attempts? job (job.answer service source store now world).result,
        Reply.Form attempt.body) ∧
    (∀ text : String, payload (some (Bytes.ofText (Json.quote text))) = .ok (.str (.ofString text))) ∧
    (∀ message : String,
      payload (some (Bytes.ofText (Reply.error message))) = .error (.refused (.ofString message))) ∧
    ∀ identifier : Identifier String, ∃ value, payload (some (Bytes.ofText identifier.write)) = .ok value ∧
      Identifier.ofJson .identifier value = .ok identifier.widen := by
  refine ⟨?_, payload_quote, payload_error, ?_⟩
  · intro job world attempt published
    exact job.published_form world published
  · intro identifier
    exact ⟨identifier.widen.toJson, payload_write identifier, rfl⟩

/-- A request with nothing in it is replied to with an error that its client sees as one. -/
theorem payload_published_empty :
    let job : Job := ⟨0, ⟨.receive, "_INBOX.1", []⟩⟩
    let service : Service := ⟨7 * Duration.day, 3, 64⟩
    let source : RandomSource Unit := ⟨fun _ dice => (.unavailable, dice)⟩
    let answered := job.answer service source Backend.interface 0 ((), .memory .empty)
    ∃ attempt ∈ Dispatcher.attempts? job answered.result,
      attempt.body = Reply.error "Message identifier cannot be empty" ∧ Reply.Form attempt.body ∧
        payload (some (Bytes.ofText attempt.body)) =
          .error (.refused (.ofString "Message identifier cannot be empty")) := by
  intro job service source answered
  obtain ⟨formed, _, refused, _⟩ := payload_published service source Backend.interface 0
  refine ⟨⟨0, "_INBOX.1", Reply.error "Message identifier cannot be empty"⟩, ?_, rfl, ?_, refused _⟩
  · exact List.mem_singleton.mpr rfl
  · exact formed job ((), .memory .empty) _ (List.mem_singleton.mpr rfl)

end Client
end ReadOnce
