import ReadOnce.Proofs.Store.Steady
import ReadOnce.Proofs.Traffic

/-!
One errand after another at one service, each served in one go before the next.
-/
namespace ReadOnce.Message

open Store

variable {ρ : Type}

inductive Action where
  | create (text : String)
  | retrieve (id key : String)

/-- What is asked of a service, and when. -/
structure Errand where
  now : Instant
  action : Action

/-- Whether an errand is an attempt at a message: it asks for it by an id and a key of the right form. -/
def Errand.tries (id : String) (errand : Errand) : Bool :=
  match errand.action with
  | .retrieve other key => other = id && (keyOf other key).isOk
  | .create _ => false

inductive Answer where
  | created (result : Except Fault (Outcome (Identifier String)))
  | retrieved (id : String) (result : Except Fault (Outcome String))

namespace Answer

/-- Whether a message was created. -/
def creates (id : String) : Answer → Bool
  | created (.ok (.success identifier)) => identifier.messageId = id
  | _ => false

/-- Whether the text of a message was handed out. -/
def opens (id : String) : Answer → Bool
  | retrieved other (.ok (.success _)) => other = id
  | _ => false

/-- Whether the attempts at a message were said to be used up. -/
def exhausts (id : String) : Answer → Bool
  | retrieved other (.ok .exhausted) => other = id
  | _ => false

theorem opens_retrieved {id : String} {result : Except Fault (Outcome String)} :
    (retrieved id result).opens id = true ↔ ∃ text, result = .ok (.success text) := by
  constructor
  · intro opened
    unfold opens at opened
    split at opened
    · next same => cases same; exact ⟨_, rfl⟩
    · cases opened
  · rintro ⟨text, rfl⟩
    exact decide_eq_true rfl

theorem exhausts_retrieved {id : String} {result : Except Fault (Outcome String)} :
    (retrieved id result).exhausts id = true ↔ result = .ok .exhausted := by
  constructor
  · intro exhausted
    unfold exhausts at exhausted
    split at exhausted
    · next same => cases same; rfl
    · cases exhausted
  · rintro rfl
    exact decide_eq_true rfl

theorem quiet_elsewhere {id other : String} (apart : other ≠ id) (result : Except Fault (Outcome String)) :
    (retrieved other result).opens id = false ∧ (retrieved other result).exhausts id = false := by
  constructor
  · unfold opens
    split
    · next same => cases same; exact decide_eq_false apart
    · rfl
  · unfold exhausts
    split
    · next same => cases same; exact decide_eq_false apart
    · rfl

end Answer

namespace Service

def serve (service : Service) (source : RandomSource ρ) (errand : Errand) (state : ρ × Backend) :
    Answer × (ρ × Backend) :=
  match errand.action with
  | .create text =>
    let run := service.create source Backend.interface errand.now text state
    (.created run.result, run.state)
  | .retrieve id key =>
    let run := service.retrieve Backend.interface errand.now id key state.2
    (.retrieved id run.result, (state.1, run.state))

/-- Serves errands in their order, and gives the answers in the same order. -/
def serveAll (service : Service) (source : RandomSource ρ) : List Errand → ρ × Backend → List Answer × (ρ × Backend)
  | [], state => ([], state)
  | errand :: rest, state =>
    let (answer, next) := service.serve source errand state
    let (answers, finish) := service.serveAll source rest next
    (answer :: answers, finish)

theorem serveAll_cons (service : Service) (source : RandomSource ρ) (errand : Errand) (rest : List Errand)
    (state : ρ × Backend) :
    service.serveAll source (errand :: rest) state =
      ((service.serve source errand state).1 ::
          (service.serveAll source rest (service.serve source errand state).2).1,
        (service.serveAll source rest (service.serve source errand state).2).2) := rfl

end Service

/-- What a shelf holds of a message is what it was, but an entry that had expired may be gone. -/
structure Undisturbed (now : Instant) (id : String) (before after : Shelf) : Prop where
  envelope : after.find? (Key.message id) = before.find? (Key.message id) ∨
    (before.live? now (Key.message id) = none ∧ after.find? (Key.message id) = none)
  counter : after.find? (Key.attempts id) = before.find? (Key.attempts id) ∨
    (before.live? now (Key.attempts id) = none ∧ after.find? (Key.attempts id) = none)

namespace Undisturbed

variable {now : Instant} {id : String} {before after : Shelf}

theorem refl (now : Instant) (id : String) (shelf : Shelf) : Undisturbed now id shelf shelf := ⟨.inl rfl, .inl rfl⟩

theorem of_sameBut {key : String} (others : SameBut key before after) (message : Key.message id ≠ key)
    (attempts : Key.attempts id ≠ key) : Undisturbed now id before after :=
  ⟨.inl (others _ message), .inl (others _ attempts)⟩

theorem of_tidied {key : String} (tidied : Tidied now key before after) : Undisturbed now id before after := by
  have each (name : String) : after.find? name = before.find? name ∨
      (before.live? now name = none ∧ after.find? name = none) := by
    by_cases same : name = key
    · exact same ▸ tidied.here
    · exact .inl (tidied.others name same)
  exact ⟨each _, each _⟩

end Undisturbed

namespace Retrieval

variable {σ : Type} {service : Service} {store : KeyValueStore σ} {shelf : σ → Shelf} {id : String} {key : Bytes}
  {now : Instant}

theorem steps_induction {holds : Retrieval → σ → Prop}
    (kept : ∀ stage state, holds stage state →
      holds (step service store id key now stage state).result (step service store id key now stage state).state)
    (count : Nat) {stage : Retrieval} {state : σ} (start : holds stage state) :
    holds (steps service store id key now count stage state).result
      (steps service store id key now count stage state).state := by
  induction count generalizing stage state with
  | zero => exact start
  | succ count ih => exact ih (kept stage state start)

theorem step_moves (lawful : store.Lawful shelf) (stage : Retrieval) (state : σ) :
    ((step service store id key now stage state).result = stage ∧
        (step service store id key now stage state).state = state) ∨
      ∃ exchange, Moves (.retrieval service id key stage)
          (.retrieval service id key (step service store id key now stage state).result) exchange ∧
        Effect now (shelf state) (shelf (step service store id key now stage state).state) exchange := by
  rcases Operation.step_moves lawful now state (.retrieval service id key stage) with ended | made
  · left
    obtain ⟨operation, same⟩ := Prod.mk.inj ended
    injection operation with _ _ _ stays
    exact ⟨stays, same⟩
  · exact .inr made

end Retrieval

theorem Moves.about {service : Service} {id : String} {key : Bytes} {stage : Retrieval} {next : Operation}
    {exchange : Exchange} (moves : Moves (.retrieval service id key stage) next exchange) :
    exchange.key = Key.message id ∨ exchange.key = Key.attempts id := by
  cases moves with
  | counted | cleared => exact .inr rfl
  | broken _ _ _ _ _ _ about => exact about
  | _ => exact .inl rfl

namespace Service

variable {σ : Type} {service : Service} {store : KeyValueStore σ} {shelf : σ → Shelf} {now : Instant}

/-- With an id and a key that pass the check, a retrieval is its calls to the store. -/
theorem retrieve_accepted {id key : String} {bytes : Bytes} (accepted : keyOf id key = .ok bytes) (state : σ) :
    let done := Retrieval.steps service store id bytes now Retrieval.counting.remaining .counting state
    service.retrieve store now id key state = ⟨done.result.result, done.state, done.log⟩ := by
  simp only [retrieve, accepted]

/-- A retrieval leaves other messages alone. -/
theorem retrieve_elsewhere (lawful : store.Lawful shelf) {id other : String} (apart : other ≠ id) (key : String)
    (state : σ) :
    Undisturbed now id (shelf state) (shelf (service.retrieve store now other key state).state) := by
  unfold retrieve
  cases keyOf other key with
  | error fault => exact .refl now id _
  | ok bytes =>
    have message : Key.message id ≠ Key.message other := fun same => apart (Key.message_inj.mp same).symm
    have attempts : Key.attempts id ≠ Key.attempts other := fun same => apart (Key.attempts_inj.mp same).symm
    have kept : (shelf (Retrieval.steps service store other bytes now Retrieval.counting.remaining .counting
          state).state).find? (Key.message id) = (shelf state).find? (Key.message id) ∧
        (shelf (Retrieval.steps service store other bytes now Retrieval.counting.remaining .counting
          state).state).find? (Key.attempts id) = (shelf state).find? (Key.attempts id) := by
      refine @Retrieval.steps_induction σ service store other bytes now (fun _ later =>
        (shelf later).find? (Key.message id) = (shelf state).find? (Key.message id) ∧
          (shelf later).find? (Key.attempts id) = (shelf state).find? (Key.attempts id)) ?_ _ _ _ ⟨rfl, rfl⟩
      intro stage later ⟨envelope, counter⟩
      rcases Retrieval.step_moves lawful stage later with ⟨_, same⟩ | ⟨exchange, moves, effect⟩
      · rw [same]
        exact ⟨envelope, counter⟩
      · have others := effect.others
        rcases moves.about with about | about
        · rw [about] at others
          exact ⟨(others _ message).trans envelope, (others _ (Key.message_ne_attempts other id).symm).trans counter⟩
        · rw [about] at others
          exact ⟨(others _ (Key.message_ne_attempts id other)).trans envelope, (others _ attempts).trans counter⟩
    exact ⟨.inl kept.1, .inl kept.2⟩

/-- A creation leaves alone every message that it does not create. -/
theorem create_elsewhere (lawful : store.Lawful shelf) {id : String} (source : RandomSource ρ) (text : String)
    (state : ρ × σ)
    (other : (Answer.created (service.create source store now text state).result).creates id = false) :
    Undisturbed now id (shelf state.2) (shelf (service.create source store now text state).state.2) := by
  simp only [create] at other ⊢
  cases begun : (Creation.start service source text state.1).result with
  | ended result => exact .refl now id _
  | storing target envelope key =>
    have effect := lawful.put now (Key.message target) envelope service.retention state.2
    simp only [begun, Creation.step] at other ⊢
    generalize store.put now (Key.message target) envelope service.retention state.2 = answer at effect other ⊢
    rcases answer with ⟨fault | done, next⟩
    · exact .of_tidied (effect.of_fault rfl)
    · have apart : target ≠ id := of_decide_eq_false other
      refine .of_sameBut effect.others ?_ (Key.message_ne_attempts target id).symm
      exact fun same => apart (Key.message_inj.mp same).symm

end Service

theorem Retrieval.step_steady {state : Backend} (steady : state.Steady) (service : Service) (id : String)
    (key : Bytes) (now : Instant) (stage : Retrieval) :
    (step service Backend.interface id key now stage state).state.Steady := by
  cases stage with
  | counting =>
    have after := steady.after_increment now (Key.attempts id) (some service.retention)
    simp only [step]
    generalize Backend.interface.increment now (Key.attempts id) (some service.retention) state = answer at after ⊢
    rcases answer with ⟨_ | _, next⟩ <;> exact after
  | fetching attempt =>
    have after := steady.after_get now (Key.message id)
    simp only [step]
    generalize Backend.interface.get now (Key.message id) state = answer at after ⊢
    rcases answer with ⟨_ | _, next⟩ <;> exact after
  | discarding =>
    have after := steady.after_delete now (Key.message id)
    simp only [step]
    generalize Backend.interface.delete now (Key.message id) state = answer at after ⊢
    rcases answer with ⟨_ | _, next⟩ <;> exact after
  | claiming text =>
    have after := steady.after_delete now (Key.message id)
    simp only [step]
    generalize Backend.interface.delete now (Key.message id) state = answer at after ⊢
    rcases answer with ⟨_ | _ | _, next⟩ <;> exact after
  | clearing text =>
    have after := steady.after_delete now (Key.attempts id)
    simp only [step]
    generalize Backend.interface.delete now (Key.attempts id) state = answer at after ⊢
    rcases answer with ⟨_ | _, next⟩ <;> exact after
  | ended result => exact steady

namespace Service

variable {state : Backend}

theorem retrieve_steady (steady : state.Steady) (service : Service) (now : Instant) (id key : String) :
    (service.retrieve Backend.interface now id key state).state.Steady := by
  unfold retrieve
  cases keyOf id key with
  | error fault => exact steady
  | ok bytes =>
    exact @Retrieval.steps_induction Backend service Backend.interface id bytes now (fun _ later => later.Steady)
      (fun stage later calm => Retrieval.step_steady calm service id bytes now stage) _ _ _ steady

theorem create_steady (steady : state.Steady) (service : Service) (source : RandomSource ρ) (now : Instant)
    (text : String) (dice : ρ) :
    (service.create source Backend.interface now text (dice, state)).state.2.Steady := by
  simp only [create]
  cases (Creation.start service source text dice).result with
  | ended result => exact steady
  | storing id envelope key =>
    have after := steady.after_put now (Key.message id) envelope service.retention
    simp only [Creation.step]
    generalize Backend.interface.put now (Key.message id) envelope service.retention state = answer at after ⊢
    rcases answer with ⟨_ | _, next⟩ <;> exact after

end Service

/-- Whether a retrieval may still end with a text. -/
def Retrieval.hopeful : Retrieval → Bool
  | .claiming _ | .clearing _ | .ended (.ok (.success _)) => true
  | _ => false

section Barred

variable {σ : Type} {service : Service} {store : KeyValueStore σ} {shelf : σ → Shelf} {id : String} {now : Instant}

/-- No call of a retrieval puts an envelope anywhere. -/
theorem Moves.barred {key : Bytes} {stage : Retrieval} {next : Operation} {exchange : Exchange} {before after : Shelf}
    (moves : Moves (.retrieval service id key stage) next exchange) (effect : Effect now before after exchange)
    (barred : before.live? now (Key.message id) = none) : after.live? now (Key.message id) = none := by
  have others := effect.others
  cases moves with
  | counted | cleared => rw [Shelf.live?, others _ (Key.message_ne_attempts id id)]; exact barred
  | discarded | won | lost =>
    obtain ⟨_, gone, _⟩ := effect.of_delete
    rw [Shelf.live?, gone]
    rfl
  | fetched =>
    refine Shelf.live?_eq_none.mpr fun entry found => ?_
    exact Shelf.live?_eq_none.mp barred entry (effect.of_get.2.found found)
  | broken _ _ _ _ fault failed =>
    refine Shelf.live?_eq_none.mpr fun entry found => ?_
    exact Shelf.live?_eq_none.mp barred entry ((effect.of_fault (by rw [failed]; rfl)).found found)

/-- Without a live envelope a retrieval comes no closer to a text. -/
theorem Moves.hopeless {key : Bytes} {stage later : Retrieval} {exchange : Exchange} {before after : Shelf}
    (moves : Moves (.retrieval service id key stage) (.retrieval service id key later) exchange)
    (effect : Effect now before after exchange) (barred : before.live? now (Key.message id) = none)
    (hopeless : stage.hopeful = false) : later.hopeful = false := by
  cases moves with
  | counted _ _ _ attempt => split <;> rfl
  | discarded | lost => rfl
  | fetched _ _ _ attempt envelope =>
    obtain ⟨found, _⟩ := effect.of_get
    rw [barred] at found
    subst found
    rfl
  | won | cleared => cases hopeless
  | broken _ _ _ _ fault failed => cases fault <;> rfl

/-- Once its envelope is not live, a message is not retrieved any more, and its envelope does not come back. -/
theorem Service.retrieve_barred (lawful : store.Lawful shelf) (key : String) {state : σ}
    (barred : (shelf state).live? now (Key.message id) = none) :
    (shelf (service.retrieve store now id key state).state).live? now (Key.message id) = none ∧
      ∀ text, (service.retrieve store now id key state).result ≠ .ok (.success text) := by
  unfold retrieve
  cases keyOf id key with
  | error fault => exact ⟨barred, fun text same => by cases same⟩
  | ok bytes =>
    obtain ⟨stays, hopeless⟩ := @Retrieval.steps_induction σ service store id bytes now (fun stage later =>
      (shelf later).live? now (Key.message id) = none ∧ stage.hopeful = false)
      (fun stage later ⟨barred, hopeless⟩ => by
        rcases Retrieval.step_moves lawful stage later with ⟨same, still⟩ | ⟨exchange, moves, effect⟩
        · rw [same, still]
          exact ⟨barred, hopeless⟩
        · exact ⟨moves.barred effect barred, moves.hopeless effect barred hopeless⟩)
      Retrieval.counting.remaining .counting state ⟨barred, rfl⟩
    refine ⟨stays, fun text same => ?_⟩
    dsimp only at same
    generalize (Retrieval.steps service store id bytes now Retrieval.counting.remaining .counting state).result = last
      at hopeless same
    cases last with
    | ended result =>
      obtain rfl : result = .ok (.success text) := same
      cases hopeless
    | _ => cases same

end Barred

end ReadOnce.Message
