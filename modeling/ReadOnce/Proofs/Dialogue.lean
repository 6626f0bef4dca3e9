import ReadOnce.Proofs.Store.Locality
import ReadOnce.Proofs.Sequence

/-!
Retrievals as dialogues. At each step a retrieval asks the store one question, which depends on how far it has come,
and the answer alone decides how it goes on and what it records.
-/
namespace ReadOnce.Message

open Store

namespace Retrieval

variable {σ : Type} {service : Service} {id : String} {key : Bytes} {now : Instant}

/-- What a retrieval asks the store next, unless it has ended. -/
def question? (service : Service) (id : String) : Retrieval → Option Question
  | counting => some (.increment (Key.attempts id) (some service.retention))
  | discarding | claiming _ => some (.delete (Key.message id))
  | fetching _ => some (.get (Key.message id))
  | clearing _ => some (.delete (Key.attempts id))
  | ended _ => none

/-- What a retrieval makes of an answer, with the records it writes. -/
def hears (service : Service) (id : String) (key : Bytes) (retrieval : Retrieval) (exchange : Exchange) :
    Retrieval × Log :=
  match retrieval, exchange with
  | counting, .increment _ _ (.ok attempt) => (if service.maxTries < attempt then discarding else fetching attempt, [])
  | discarding, .delete _ (.ok _) =>
    (ended (.ok .exhausted), note .warning ("Attempt budget exhausted for " ++ id ++ ", message deleted"))
  | fetching attempt, .get _ (.ok envelope) => examine id key attempt envelope
  | claiming text, .delete _ (.ok true) => (clearing text, [])
  | claiming _, .delete _ (.ok false) => (ended (.ok (.failure .notFound "")), [])
  | clearing text, .delete _ (.ok _) =>
    (ended (.ok (.success text)), note .info ("Secret message " ++ id ++ " retrieved and destroyed"))
  | stage, exchange =>
    match exchange.fault? with
    | some fault =>
      let (result, log) := afterFault ("retrieving " ++ id) fault
      (ended result, log)
    | none => (stage, [])

/-- A step is a question and what is made of its answer. -/
theorem step_eq (store : KeyValueStore σ) (stage : Retrieval) (state : σ) :
    step service store id key now stage state =
      match stage.question? service id with
      | none => ⟨stage, state, []⟩
      | some question =>
        let reply := question.ask store now state
        let heard := stage.hears service id key reply.1
        ⟨heard.1, reply.2, heard.2⟩ := by
  cases stage with
  | counting =>
    rcases asked : store.increment now (Key.attempts id) (some service.retention) state with ⟨_ | _, _⟩ <;>
      simp only [step, question?, Question.ask, asked] <;> rfl
  | discarding =>
    rcases asked : store.delete now (Key.message id) state with ⟨_ | _, _⟩ <;>
      simp only [step, question?, Question.ask, asked] <;> rfl
  | fetching attempt =>
    rcases asked : store.get now (Key.message id) state with ⟨_ | _, _⟩ <;>
      simp only [step, question?, Question.ask, asked] <;> rfl
  | claiming text =>
    rcases asked : store.delete now (Key.message id) state with ⟨_ | _ | _, _⟩ <;>
      simp only [step, question?, Question.ask, asked] <;> rfl
  | clearing text =>
    rcases asked : store.delete now (Key.attempts id) state with ⟨_ | _, _⟩ <;>
      simp only [step, question?, Question.ask, asked] <;> rfl
  | ended result => rfl

/-- The keys that a retrieval asks about. -/
def Concerns (id key : String) : Prop := key = Key.message id ∨ key = Key.attempts id

theorem concerns_question? {stage : Retrieval} {question : Question}
    (asked : stage.question? service id = some question) : Concerns id question.key := by
  cases stage with
  | counting | clearing =>
    cases asked
    exact .inr rfl
  | discarding | fetching | claiming =>
    cases asked
    exact .inl rfl
  | ended => cases asked

theorem not_concerns {other name : String} (apart : id ≠ other) (concerns : Concerns id name) :
    ¬ Concerns other name := by
  rintro (message | attempts)
  · rcases concerns with rfl | rfl
    · exact apart (Key.message_inj.mp message)
    · exact Key.message_ne_attempts other id message.symm
  · rcases concerns with rfl | rfl
    · exact Key.message_ne_attempts id other attempts
    · exact apart (Key.attempts_inj.mp attempts)

variable {keys : String → Prop} {left right : Backend}

/-- At stores that hold the same of a message a retrieval does the same. -/
theorem step_concur (concur : Backend.Concur now (Concerns id) left right) (stage : Retrieval) :
    let one := step service Backend.interface id key now stage left
    let other := step service Backend.interface id key now stage right
    one.result = other.result ∧ Backend.Concur now (Concerns id) one.state other.state := by
  simp only [step_eq]
  cases asked : stage.question? service id with
  | none => exact ⟨rfl, concur⟩
  | some question =>
    obtain ⟨same, later⟩ := concur.ask (concerns_question? asked)
    refine ⟨?_, later⟩
    dsimp only
    rw [same]

/-- A retrieval changes nothing that two stores hold in common of other keys than its own. -/
theorem step_elsewhere (elsewhere : ∀ name, Concerns id name → ¬ keys name)
    (concur : Backend.Concur now keys left right) (stage : Retrieval) :
    Backend.Concur now keys (step service Backend.interface id key now stage left).state right := by
  rw [step_eq]
  cases asked : stage.question? service id with
  | none => exact concur
  | some question => exact concur.ask_elsewhere (elsewhere question.key (concerns_question? asked))

theorem steps_concur (count : Nat) (stage : Retrieval) (concur : Backend.Concur now (Concerns id) left right) :
    let one := steps service Backend.interface id key now count stage left
    let other := steps service Backend.interface id key now count stage right
    one.result = other.result ∧ Backend.Concur now (Concerns id) one.state other.state := by
  induction count generalizing stage left right with
  | zero => exact ⟨rfl, concur⟩
  | succ count ih =>
    obtain ⟨same, later⟩ := @step_concur service id key now left right concur stage
    simp only [steps]
    rw [same]
    exact ih _ later

theorem steps_elsewhere (elsewhere : ∀ name, Concerns id name → ¬ keys name) (count : Nat) (stage : Retrieval)
    (concur : Backend.Concur now keys left right) :
    Backend.Concur now keys (steps service Backend.interface id key now count stage left).state right :=
  @steps_induction Backend service Backend.interface id key now (fun _ later => Backend.Concur now keys later right)
    (fun stage _ later => step_elsewhere elsewhere later stage) count stage left concur

theorem steps_succ (store : KeyValueStore σ) (count : Nat) (stage : Retrieval) (state : σ) :
    let before := steps service store id key now count stage state
    let last := step service store id key now before.result before.state
    (steps service store id key now (count + 1) stage state).result = last.result ∧
      (steps service store id key now (count + 1) stage state).state = last.state := by
  induction count generalizing stage state with
  | zero => exact ⟨rfl, rfl⟩
  | succ count ih => exact ih _ _

theorem steps_of_ended {store : KeyValueStore σ} {count : Nat} {stage : Retrieval} {state : σ}
    {result : Except Fault (Outcome String)}
    (ended : (steps service store id key now count stage state).result = .ended result) (more : Nat) :
    (steps service store id key now (count + more) stage state).result = .ended result ∧
      (steps service store id key now (count + more) stage state).state =
        (steps service store id key now count stage state).state := by
  induction more with
  | zero => exact ⟨ended, rfl⟩
  | succ more ih =>
    obtain ⟨result, state⟩ := @steps_succ σ service id key now store (count + more) stage state
    rw [ih.1, ih.2] at result state
    exact ⟨result, state⟩

end Retrieval
end ReadOnce.Message
