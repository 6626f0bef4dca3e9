import ReadOnce.Proofs.Envelope
import ReadOnce.Proofs.Identifier
import ReadOnce.Proofs.Store.Calls

/-!
What a creation draws, stores and hands out. The id is canonical, the key is of the length that envelopes take, and the
envelope opens under it to the text; it lies under the id handed out, and nothing else in the store is changed.
-/
namespace ReadOnce.Message

open Store

variable {ρ σ : Type}

/-- A text passes its check if it has bytes, not too many of them, and is not blank. -/
theorem textFault?_eq_none_iff {limit : Int} {text : String} :
    textFault? limit text = none ↔
      (Bytes.ofText text ≠ [] ∧ ((Bytes.ofText text).length : Int) ≤ limit) ∧ Text.isBlank text = false := by
  have size := Bytes.length_ofText_eq_utf8ByteSize text
  have given : text.isEmpty = true ↔ Bytes.ofText text = [] := by
    rw [← List.length_eq_zero_iff, size, String.isEmpty, beq_iff_eq]
  unfold textFault?
  rw [← size]
  split
  · next empty => simp [given.mp empty]
  next some =>
  rw [given] at some
  split
  · next long => simp [Int.not_le.mpr long]
  next short =>
  split
  · next blank => simp [blank]
  · next visible => simp [some, Int.not_lt.mp short, visible]

theorem bytes_of_textFault? {limit : Int} {text : String} (fine : textFault? limit text = none) :
    Bytes.ofText text ≠ [] ∧ ((Bytes.ofText text).length : Int) ≤ limit :=
  (textFault?_eq_none_iff.mp fine).1

namespace Creation

variable {source : RandomSource ρ} {text id envelope : String} {key : Bytes} {dice : ρ}

/-- What was drawn for a text: the form of the id, of the key, and of the envelope. -/
structure Drawn (text id envelope : String) (key : Bytes) : Prop where
  canonical : Id.Canonical id
  sized : key.length = Envelope.keyLength
  locked : ∃ schedule initial, Cipher.Schedule.ofKey key = .ok schedule ∧ initial.length = 16 ∧
    envelope = Envelope.lockWith schedule initial (Bytes.ofText text)

theorem draw_forms (drawn : (draw source text dice).1 = .ok (id, envelope, key)) : Drawn text id envelope key := by
  unfold draw at drawn
  split at drawn
  · cases drawn
  · next bytes _ taken =>
    split at drawn
    · cases drawn
    · next secret later rolled =>
      split at drawn
      · cases drawn
      · next made last locked =>
        cases drawn
        have sized := RandomSource.length_bytes rolled
        obtain ⟨schedule, scheduled⟩ := Envelope.exists_schedule sized
        refine ⟨Id.canonical_ofBytes (RandomSource.length_bytes taken), sized, ?_⟩
        rcases begun : source.bytes 16 later with ⟨fault | initial, rest⟩
        · simp only [Envelope.lock, Envelope.initialLength, begun] at locked
          cases locked
        · rw [Envelope.lock_eq _ begun scheduled] at locked
          cases locked
          exact ⟨schedule, initial, scheduled, RandomSource.length_bytes begun, rfl⟩

theorem Drawn.unlock_eq (drawn : Drawn text id envelope key) :
    Envelope.unlock envelope key = .ok (Bytes.ofText text) := by
  obtain ⟨schedule, initial, scheduled, full, rfl⟩ := drawn.locked
  exact Envelope.unlock_lockWith (Bytes.ofText text) drawn.sized scheduled full

theorem Drawn.reveal? (drawn : Drawn text id envelope key) : Retrieval.reveal? envelope key = some text := by
  simp only [Retrieval.reveal?, drawn.unlock_eq, Bytes.toText?_ofText]

variable {service : Service}

theorem start_storing (begun : (start service source text dice).result = .storing id envelope key) :
    textFault? service.maxSize text = none ∧ (draw source text dice).1 = .ok (id, envelope, key) := by
  unfold start at begun
  split at begun
  · cases begun
  · next fine =>
    refine ⟨fine, ?_⟩
    split at begun
    · next drawn =>
      cases begun
      rw [drawn]
    · cases begun
    · cases begun
    · cases begun

/-- Nothing is created before it is stored. -/
theorem start_ended {result : Except Fault (Outcome (Identifier String))}
    (begun : (start service source text dice).result = .ended result) (identifier : Identifier String) :
    result ≠ .ok (.success identifier) := by
  unfold start at begun
  split at begun
  · cases begun
    nofun
  · split at begun <;> cases begun <;> nofun

end Creation

variable {service : Service} {source : RandomSource ρ} {store : KeyValueStore σ} {shelf : σ → Shelf} {now : Instant}
  {text : String} {desk : ρ × σ} {identifier : Identifier String}

theorem Service.textFault?_of_create
    (created : (service.create source store now text desk).result = .ok (.success identifier)) :
    textFault? service.maxSize text = none := by
  cases begun : (Creation.start service source text desk.1).result with
  | ended result =>
    simp only [create, begun] at created
    exact absurd created (Creation.start_ended begun _)
  | storing id envelope key => exact (Creation.start_storing begun).1

/-- A text that passes its check is created, once all is drawn and the store takes the envelope. -/
theorem Service.create_eq_success {id envelope : String} {key : Bytes} (fine : textFault? service.maxSize text = none)
    (drawn : (Creation.draw source text desk.1).1 = .ok (id, envelope, key))
    (stored : (store.put now (Key.message id) envelope service.retention desk.2).1 = .ok ()) :
    (service.create source store now text desk).result = .ok (.success ⟨id, Base64.encode key⟩) := by
  have begun : (Creation.start service source text desk.1).result = .storing id envelope key := by
    simp only [Creation.start, fine]
    generalize Creation.draw source text desk.1 = answer at drawn ⊢
    rcases answer with ⟨result, last⟩
    cases drawn
    rfl
  simp only [create, begun, Creation.step]
  generalize store.put now (Key.message id) envelope service.retention desk.2 = answer at stored ⊢
  rcases answer with ⟨result, next⟩
  cases stored
  rfl

/-- The key handed out is the one that was drawn, and the envelope that was drawn is what the store has more. -/
theorem Service.create_deposits (lawful : store.Lawful shelf)
    (created : (service.create source store now text desk).result = .ok (.success identifier)) :
    ∃ envelope key, (Creation.draw source text desk.1).1 = .ok (identifier.messageId, envelope, key) ∧
      identifier.aesKey = Base64.encode key ∧
      (shelf (service.create source store now text desk).state.2).find? (Key.message identifier.messageId) =
        some ⟨envelope, some (now + service.retention)⟩ ∧
      SameBut (Key.message identifier.messageId) (shelf desk.2)
        (shelf (service.create source store now text desk).state.2) := by
  simp only [create] at created ⊢
  cases begun : (Creation.start service source text desk.1).result with
  | ended result =>
    rw [begun] at created
    exact absurd created (Creation.start_ended begun _)
  | storing target envelope key =>
    have effect := lawful.put now (Key.message target) envelope service.retention desk.2
    simp only [begun, Creation.step] at created ⊢
    generalize store.put now (Key.message target) envelope service.retention desk.2 = answer at effect created ⊢
    rcases answer with ⟨fault | done, next⟩
    · cases fault <;> cases created
    · cases created
      obtain ⟨due, reached, here, others⟩ := effect.of_put
      rw [expiry_eq reached] at here
      exact ⟨envelope, key, (Creation.start_storing begun).2, rfl, here, others⟩

end ReadOnce.Message
