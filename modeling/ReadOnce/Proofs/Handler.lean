import ReadOnce.Broker.Handler
import ReadOnce.Proofs.Creation
import ReadOnce.Proofs.Identifier

/-!
What requests come to. One that passes the checks of its body is a creation or a retrieval and is replied to with what
came of it; any other is told what is wrong with it, and the store is not asked.
-/
namespace ReadOnce.Broker.Handler

open Message Store

variable {ρ σ : Type}

section Cases

variable (service : Service) (source : RandomSource ρ) (store : KeyValueStore σ) (now : Instant)

/-- A request to save is refused, or its text is created and the reply is an identifier or a reason. -/
theorem save_cases (body : Bytes) (world : ρ × σ) :
    let run := save service source store now body world
    (∃ message, run.result = .ok (Reply.error message) ∧ run.state = world) ∨
      ∃ text, Bytes.toText? body = some text ∧
        run.state = (service.create source store now text world).state ∧
        ((∃ message, run.result.toOption.getD Reply.internal = Reply.error message) ∨
          ∃ identifier, (service.create source store now text world).result = .ok (.success identifier) ∧
            run.result = .ok identifier.write) := by
  intro run
  simp only [run, save]
  split
  · exact .inl ⟨_, rfl, rfl⟩
  split
  · exact .inl ⟨_, rfl, rfl⟩
  cases decoded : Bytes.toText? body with
  | none => exact .inl ⟨_, rfl, rfl⟩
  | some text =>
    refine .inr ⟨text, rfl, ?_⟩
    dsimp only
    cases created : (service.create source store now text world).result with
    | error fault => exact ⟨rfl, .inl ⟨_, rfl⟩⟩
    | ok outcome =>
      cases outcome with
      | success identifier => exact ⟨rfl, .inr ⟨identifier, rfl, rfl⟩⟩
      | exhausted => exact ⟨rfl, .inl ⟨_, rfl⟩⟩
      | failure kind message => exact ⟨rfl, .inl ⟨_, rfl⟩⟩

theorem receive_cases (body : Bytes) (state : σ) :
    let run := receive service store now body state
    (∃ message, run.result = .ok (Reply.error message) ∧ run.state = state) ∨
      ∃ identifier, Identifier.read body = .ok identifier ∧
        run.state = (service.retrieve store now identifier.messageId identifier.aesKey state).state := by
  intro run
  simp only [run, receive]
  split
  · exact .inl ⟨_, rfl, rfl⟩
  split
  · exact .inl ⟨_, rfl, rfl⟩
  cases decoded : Identifier.read body with
  | error faults => exact .inl ⟨_, rfl, rfl⟩
  | ok identifier =>
    refine .inr ⟨identifier, rfl, ?_⟩
    dsimp only
    split <;> rfl

end Cases

variable {service : Service} {source : RandomSource ρ} {store : KeyValueStore σ} {now : Instant}

/-- A body that a request to save is let through with: a text that may be stored. -/
def Accepted (service : Service) (body : Bytes) : Prop :=
  ∃ text, Bytes.toText? body = some text ∧ textFault? service.maxSize text = none

theorem error_ne_write (message : String) (identifier : Identifier String) :
    Reply.error message ≠ identifier.write := by
  intro same
  have third : (Reply.error message).toList[2]? = identifier.write.toList[2]? := by rw [same]
  rw [Reply.toList_error, Identifier.toList_write, List.getElem?_append_left (by decide),
    List.getElem?_append_left (by decide)] at third
  exact absurd third (by decide)

theorem accepted_of_saved {body : Bytes} {world : ρ × σ} {identifier : Identifier String}
    (saved : (save service source store now body world).result = .ok identifier.write) : Accepted service body := by
  rcases save_cases service source store now body world with
    ⟨message, refused, _⟩ | ⟨text, decoded, _, ⟨message, refused⟩ | ⟨_, created, _⟩⟩
  · rw [refused] at saved
    exact absurd (Except.ok.inj saved) (error_ne_write message identifier)
  · rw [saved] at refused
    exact absurd refused.symm (error_ne_write message identifier)
  · exact ⟨text, decoded, Service.textFault?_of_create created⟩

theorem save_created {text : String} {world : ρ × σ} {identifier : Identifier String}
    (created : (service.create source store now text world).result = .ok (.success identifier)) :
    let run := save service source store now (Bytes.ofText text) world
    run.result = .ok identifier.write ∧ run.state = (service.create source store now text world).state := by
  obtain ⟨given, short⟩ := bytes_of_textFault? (Service.textFault?_of_create created)
  have nonempty : (Bytes.ofText text).isEmpty = false := List.isEmpty_eq_false_iff.mpr given
  simp only [save, nonempty, Bool.false_eq_true, if_false, if_neg (Int.not_lt.mpr short), Bytes.toText?_ofText,
    created, true_and]

/-- A request to receive a message, as it is handed out. -/
theorem receive_issued {identifier : Identifier String} {key : Bytes} (issued : identifier.Issued key) (state : σ) :
    let run := receive service store now (Bytes.ofText identifier.write) state
    (service.maxSize < Identifier.requestSize → run.result = .ok (Reply.error (sizeMessage service.maxSize))) ∧
      (Identifier.requestSize ≤ service.maxSize → ∀ text,
        (service.retrieve store now identifier.messageId identifier.aesKey state).result = .ok (.success text) →
        run.result = .ok (Json.quote text)) := by
  have size := issued.length_write
  have nonempty : (Bytes.ofText identifier.write).isEmpty = false := by
    cases bytes : Bytes.ofText identifier.write with
    | nil =>
      rw [bytes] at size
      cases size
    | cons => rfl
  constructor
  · intro small
    rw [receive, nonempty, if_neg Bool.false_ne_true, size, if_pos small]
  · intro large text retrieved
    simp only [receive, nonempty, if_neg Bool.false_ne_true, size, if_neg (Int.not_lt.mpr large),
      Identifier.read_write, retrieved]

end ReadOnce.Broker.Handler
