import ReadOnce.Proofs.Handler
import ReadOnce.Proofs.Retrieval
import ReadOnce.Proofs.Store.Veil

/-!
What the broker gives away. Two texts that are saved leave the same records, and the same keys in the store for the
same time; two attempts at a message, whatever is in its envelope and under whatever keys, can be told apart by how
they end and by nothing else.
-/
namespace ReadOnce

namespace Message

open Store

variable {ρ σ : Type} {service : Service} {now : Instant}

namespace Creation

variable {source : RandomSource ρ}

private theorem draw_alike (source : RandomSource ρ) (one other : String) (dice : ρ) :
    draw source one dice = draw source other dice ∨
      ∃ id key envelope twin next,
        draw source one dice = (.ok (id, envelope, key), next) ∧
          draw source other dice = (.ok (id, twin, key), next) := by
  unfold draw
  rcases source.bytes Id.length dice with ⟨fault | id, dice⟩
  · exact .inl rfl
  dsimp only
  rcases source.bytes Envelope.keyLength dice with ⟨fault | key, dice⟩
  · exact .inl rfl
  dsimp only [Envelope.lock]
  rcases source.bytes Envelope.initialLength dice with ⟨fault | initial, dice⟩
  · exact .inl rfl
  dsimp only
  cases Cipher.Schedule.ofKey key with
  | error fault => exact .inl rfl
  | ok schedule => exact .inr ⟨_, _, _, _, _, rfl, rfl⟩

private theorem start_alike {one other : String} (fine : textFault? service.maxSize one = none)
    (sound : textFault? service.maxSize other = none) (dice : ρ) :
    start service source one dice = start service source other dice ∨
      ∃ id key envelope twin next, start service source one dice = ⟨.storing id envelope key, next, []⟩ ∧
        start service source other dice = ⟨.storing id twin key, next, []⟩ := by
  simp only [start, fine, sound]
  rcases draw_alike source one other dice with same | ⟨id, key, envelope, twin, next, first, second⟩
  · rw [same]
    exact .inl rfl
  · rw [first, second]
    exact .inr ⟨id, key, envelope, twin, next, rfl, rfl⟩

end Creation

/-- Creations of two texts end alike, and with equal records; the stores they leave differ in one value at most. -/
theorem Service.create_alike {store : KeyValueStore σ} {veiled : String → σ → σ → Prop}
    (discreet : ∀ key, store.Discreet key (veiled key)) (alike : ∀ key state, veiled key state state)
    {one other : String} (fine : textFault? service.maxSize one = none)
    (sound : textFault? service.maxSize other = none) (source : RandomSource ρ) (world : ρ × σ) :
    let first := service.create source store now one world
    let second := service.create source store now other world
    first.result = second.result ∧ first.log = second.log ∧ ∃ key, veiled key first.state.2 second.state.2 := by
  simp only [create]
  rcases @Creation.start_alike ρ service source one other fine sound world.1 with
    same | ⟨id, key, envelope, twin, next, first, second⟩
  · rw [same]
    exact ⟨rfl, rfl, "", alike _ _⟩
  · obtain ⟨answer, later⟩ :=
      (discreet (Key.message id)).put now envelope twin service.retention (alike _ world.2)
    rw [first, second]
    simp only [Creation.step]
    generalize store.put now (Key.message id) envelope service.retention world.2 = put at answer later ⊢
    generalize store.put now (Key.message id) twin service.retention world.2 = again at answer later ⊢
    obtain ⟨reply, left⟩ := put
    obtain ⟨echo, right⟩ := again
    obtain rfl : reply = echo := answer
    cases reply with
    | error fault => exact ⟨rfl, rfl, _, later⟩
    | ok done => exact ⟨rfl, rfl, _, later⟩

/-- The kind of an outcome; a text that is handed out has none. -/
def Outcome.kind? {α : Type} : Outcome α → Option FailureKind
  | success _ => none
  | exhausted => some .budgetExceeded
  | failure kind _ => some kind

/-- A key is valid if there is an id with which it passes the check. -/
def ValidKey (key : String) : Prop := ∃ id bytes, keyOf id key = .ok bytes

private theorem ValidKey.keyOf_eq {key : String} (valid : ValidKey key) :
    ∃ bytes, ∀ id, keyOf id key =
      if Text.isBlank id then .error .blankId else if idLimit < id.length then .error .longId else .ok bytes := by
  obtain ⟨id, bytes, accepted⟩ := valid
  refine ⟨bytes, fun other => ?_⟩
  unfold keyOf at accepted ⊢
  split at accepted
  · cases accepted
  split at accepted
  · cases accepted
  rw [accepted]

theorem ValidKey.keyOf_alike {one other : String} (valid : ValidKey one) (sound : ValidKey other) (id : String) :
    (∃ fault, keyOf id one = .error fault ∧ keyOf id other = .error fault) ∨
      ∃ key secret, keyOf id one = .ok key ∧ keyOf id other = .ok secret := by
  obtain ⟨key, checked⟩ := valid.keyOf_eq
  obtain ⟨secret, tested⟩ := sound.keyOf_eq
  rw [checked, tested]
  split
  · exact .inl ⟨_, rfl, rfl⟩
  split
  · exact .inl ⟨_, rfl, rfl⟩
  · exact .inr ⟨_, _, rfl, rfl⟩

namespace Retrieval

variable {id : String} {key secret : Bytes}

/-- Two retrievals that have come as far as each other, with texts of their own. -/
inductive Abreast : Retrieval → Retrieval → Prop where
  | counting : Abreast .counting .counting
  | discarding : Abreast .discarding .discarding
  | fetching (attempt : Int) : Abreast (.fetching attempt) (.fetching attempt)
  | claiming (one other : String) : Abreast (.claiming one) (.claiming other)
  | clearing (one other : String) : Abreast (.clearing one) (.clearing other)
  | opened (one other : String) : Abreast (.ended (.ok (.success one))) (.ended (.ok (.success other)))
  | ended (result : Except Fault (Outcome String)) : Abreast (.ended result) (.ended result)

/-- The end of a retrieval under a key that does not open the envelope. -/
def shut : Retrieval := .ended (.ok (.failure .badKeyOrCorruption ""))

/-- The retrieval has the text, or it has ended for another reason than a key that does not fit. -/
def Past : Retrieval → Prop
  | claiming _ | clearing _ => True
  | ended result => ∀ message, result ≠ .ok (.failure .badKeyOrCorruption message)
  | _ => False

/-- Two retrievals of which one could open the envelope. -/
inductive Parted : Retrieval → Retrieval → Prop where
  | left {other : Retrieval} (past : other.Past) : Parted shut other
  | right {one : Retrieval} (past : one.Past) : Parted one shut

private theorem past_fail (fault : StoreFault) (state : σ) : (fail id fault state).result.Past := by
  cases fault <;> nofun

private theorem Past.step {store : KeyValueStore σ} {stage : Retrieval} (past : stage.Past) (state : σ) :
    (stage.step service store id key now state).result.Past := by
  cases stage with
  | counting | discarding | fetching => exact past.elim
  | claiming text =>
    simp only [Retrieval.step]
    rcases store.delete now (Key.message id) state with ⟨fault | _ | _, next⟩
    · exact past_fail fault next
    · intro message same
      cases same
    · trivial
  | clearing text =>
    simp only [Retrieval.step]
    rcases store.delete now (Key.attempts id) state with ⟨fault | _, next⟩
    · exact past_fail fault next
    · intro message same
      cases same
  | ended result => exact past

private theorem Parted.step {store : KeyValueStore σ} {one other : Retrieval} (parted : Parted one other)
    (left right : σ) :
    Parted (one.step service store id key now left).result (other.step service store id secret now right).result := by
  cases parted with
  | left past => exact .left (past.step right)
  | right past => exact .right (past.step left)

/-- What two retrievals in step with each other have left: equal records, and stores that differ in one value. -/
structure Matched (veiled : σ → σ → Prop) (first second : Run σ Retrieval) : Prop where
  abreast : Abreast first.result second.result
  log : first.log = second.log
  stores : veiled first.state second.state

private theorem exists_answer {α : Type} {first second : α × σ} (same : first.1 = second.1) :
    ∃ answer, first = (answer, first.2) ∧ second = (answer, second.2) := ⟨first.1, rfl, by rw [same]⟩

variable {store : KeyValueStore σ} {veiled : σ → σ → Prop}

section Steps

variable (discreet : store.Discreet (Key.message id) veiled) {left right : σ}

include discreet

private theorem counting_alike (start : veiled left right) :
    let first := Retrieval.counting.step service store id key now left
    let second := Retrieval.counting.step service store id secret now right
    Matched veiled first second ∨ Parted first.result second.result := by
  obtain ⟨same, later⟩ :=
    discreet.increment now (Key.message_ne_attempts id id).symm (some service.retention) start
  obtain ⟨answer, counted, again⟩ := exists_answer same
  simp only [Retrieval.step]
  rw [counted, again]
  cases answer with
  | error fault => exact .inl ⟨.ended _, rfl, later⟩
  | ok attempt =>
    dsimp only
    split
    · exact .inl ⟨.discarding, rfl, later⟩
    · exact .inl ⟨.fetching attempt, rfl, later⟩

private theorem discarding_alike (start : veiled left right) :
    let first := Retrieval.discarding.step service store id key now left
    let second := Retrieval.discarding.step service store id secret now right
    Matched veiled first second ∨ Parted first.result second.result := by
  obtain ⟨same, later⟩ := discreet.delete now (Key.message id) start
  obtain ⟨answer, removed, again⟩ := exists_answer same
  simp only [Retrieval.step]
  rw [removed, again]
  cases answer with
  | error fault => exact .inl ⟨.ended _, rfl, later⟩
  | ok there => exact .inl ⟨.ended _, rfl, later⟩

private theorem fetching_alike (attempt : Int) (start : veiled left right) :
    let first := (Retrieval.fetching attempt).step service store id key now left
    let second := (Retrieval.fetching attempt).step service store id secret now right
    Matched veiled first second ∨ Parted first.result second.result := by
  obtain ⟨same, later⟩ := discreet.get now start
  simp only [Retrieval.step]
  generalize store.get now (Key.message id) left = first at same later ⊢
  generalize store.get now (Key.message id) right = second at same later ⊢
  rcases first with ⟨fault | _ | envelope, left⟩ <;> rcases second with ⟨failed | _ | twin, right⟩
  · cases same
    exact .inl ⟨.ended _, rfl, later⟩
  · cases same
  · cases same
  · cases same
  · exact .inl ⟨.ended _, rfl, later⟩
  · cases same
  · cases same
  · cases same
  · -- here alone the keys and the values matter, by whether they fit
    simp only [examine]
    cases reveal? envelope key with
    | none =>
      cases reveal? twin secret with
      | none => exact .inl ⟨.ended _, rfl, later⟩
      | some text => exact .inr (.left trivial)
    | some text =>
      cases reveal? twin secret with
      | none => exact .inr (.right trivial)
      | some rival => exact .inl ⟨.claiming text rival, rfl, later⟩

private theorem claiming_alike (text rival : String) (start : veiled left right) :
    let first := (Retrieval.claiming text).step service store id key now left
    let second := (Retrieval.claiming rival).step service store id secret now right
    Matched veiled first second ∨ Parted first.result second.result := by
  obtain ⟨same, later⟩ := discreet.delete now (Key.message id) start
  obtain ⟨answer, removed, again⟩ := exists_answer same
  simp only [Retrieval.step]
  rw [removed, again]
  rcases answer with fault | _ | _
  · exact .inl ⟨.ended _, rfl, later⟩
  · exact .inl ⟨.ended _, rfl, later⟩
  · exact .inl ⟨.clearing text rival, rfl, later⟩

private theorem clearing_alike (text rival : String) (start : veiled left right) :
    let first := (Retrieval.clearing text).step service store id key now left
    let second := (Retrieval.clearing rival).step service store id secret now right
    Matched veiled first second ∨ Parted first.result second.result := by
  obtain ⟨same, later⟩ := discreet.delete now (Key.attempts id) start
  obtain ⟨answer, removed, again⟩ := exists_answer same
  simp only [Retrieval.step]
  rw [removed, again]
  cases answer with
  | error fault => exact .inl ⟨.ended _, rfl, later⟩
  | ok there => exact .inl ⟨.opened text rival, rfl, later⟩

/-- A step keeps two retrievals in step with each other, unless it is the one that opens an envelope. -/
theorem Abreast.step {one other : Retrieval} (abreast : Abreast one other) (start : veiled left right) :
    let first := one.step service store id key now left
    let second := other.step service store id secret now right
    Matched veiled first second ∨ Parted first.result second.result := by
  cases abreast with
  | counting => exact counting_alike discreet start
  | discarding => exact discarding_alike discreet start
  | fetching attempt => exact fetching_alike discreet attempt start
  | claiming text rival => exact claiming_alike discreet text rival start
  | clearing text rival => exact clearing_alike discreet text rival start
  | opened text rival => exact .inl ⟨.opened text rival, rfl, start⟩
  | ended result => exact .inl ⟨.ended result, rfl, start⟩

end Steps

private theorem Parted.steps {one other : Retrieval} (parted : Parted one other) (count : Nat) (left right : σ) :
    Parted (steps service store id key now count one left).result
      (steps service store id secret now count other right).result := by
  induction count generalizing one other left right with
  | zero => exact parted
  | succ count ih => exact ih (parted.step left right) _ _

theorem Abreast.steps (discreet : store.Discreet (Key.message id) veiled) (count : Nat) {one other : Retrieval}
    (abreast : Abreast one other) {left right : σ} (start : veiled left right) :
    let first := steps service store id key now count one left
    let second := steps service store id secret now count other right
    Matched veiled first second ∨ Parted first.result second.result := by
  induction count generalizing one other left right with
  | zero => exact .inl ⟨abreast, rfl, start⟩
  | succ count ih =>
    rcases @Abreast.step σ service now id key secret store veiled discreet left right one other abreast start with
      ⟨ahead, same, later⟩ | parted
    · rcases ih ahead later with ⟨done, log, after⟩ | parted
      · exact .inl ⟨done, by rw [Retrieval.steps, Retrieval.steps, same, log], after⟩
      · exact .inr parted
    · exact .inr (parted.steps count _ _)

/-- Retrievals that end with outcomes of one kind were in step all the way. -/
theorem Parted.kind?_ne {one other : Retrieval} (parted : Parted one other) {outcome twin : Outcome String}
    (first : one = .ended (.ok outcome)) (second : other = .ended (.ok twin)) : outcome.kind? ≠ twin.kind? := by
  intro kinds
  cases parted with
  | left past =>
    cases first
    subst second
    cases twin with
    | success | exhausted => cases kinds
    | failure kind message =>
      cases kinds
      exact past message rfl
  | right past =>
    cases second
    subst first
    cases outcome with
    | success | exhausted => cases kinds
    | failure kind message =>
      cases kinds
      exact past message rfl

end Retrieval

/-- Attempts at one message under valid keys, which end with outcomes of one kind, write the same records and leave
stores that differ in one value; their outcomes are the same, texts that are handed out apart. -/
theorem Service.retrieve_alike {store : KeyValueStore σ} {veiled : σ → σ → Prop} {id one other : String}
    (discreet : store.Discreet (Key.message id) veiled) (valid : ValidKey one) (sound : ValidKey other)
    {left right : σ} (start : veiled left right) {outcome twin : Outcome String}
    (ended : (service.retrieve store now id one left).result = .ok outcome)
    (closed : (service.retrieve store now id other right).result = .ok twin) (kinds : outcome.kind? = twin.kind?) :
    let first := service.retrieve store now id one left
    let second := service.retrieve store now id other right
    first.log = second.log ∧ veiled first.state second.state ∧ (outcome.kind? ≠ none → outcome = twin) := by
  rcases valid.keyOf_alike sound id with ⟨fault, refused, rejected⟩ | ⟨key, secret, accepted, taken⟩
  · simp only [retrieve, refused, rejected, true_and] at ended closed ⊢
    cases ended
    cases closed
    exact ⟨start, fun _ => rfl⟩
  rw [retrieve_accepted accepted] at ended ⊢
  rw [retrieve_accepted taken] at closed ⊢
  have course := @Retrieval.Abreast.steps σ service now id key secret store veiled discreet
    Retrieval.counting.remaining _ _ .counting left right start
  obtain ⟨last, finished⟩ := @Retrieval.steps_ended σ service store id key now _ _ (Nat.le_refl _) left
  obtain ⟨final, completed⟩ := @Retrieval.steps_ended σ service store id secret now _ _ (Nat.le_refl _) right
  rw [finished] at ended
  rw [completed] at closed
  obtain rfl : last = .ok outcome := ended
  obtain rfl : final = .ok twin := closed
  rcases course with ⟨abreast, log, later⟩ | parted
  · refine ⟨log, later, fun failed => ?_⟩
    rw [finished, completed] at abreast
    cases abreast with
    | opened => exact absurd rfl failed
    | ended => rfl
  · exact absurd kinds (parted.kind?_ne finished completed)

end Message

namespace Broker.Handler

open Message Store

variable {ρ σ : Type} {service : Service} {source : RandomSource ρ} {now : Instant}

private theorem save_accepted {store : KeyValueStore σ} {body : Bytes} {text : String}
    (decoded : Bytes.toText? body = some text) (fine : textFault? service.maxSize text = none) (world : ρ × σ) :
    let run := service.create source store now text world
    (save service source store now body world).state = run.state ∧
      (save service source store now body world).log = run.log ++
        match run.result with
        | .ok (.failure kind _) => warn ("Secret message creation rejected: " ++ kind.name)
        | _ => [] := by
  obtain rfl := Bytes.ofText_of_toText? decoded
  obtain ⟨given, short⟩ := bytes_of_textFault? fine
  simp only [save, List.isEmpty_eq_false_iff.mpr given, Bool.false_eq_true, if_false, if_neg (Int.not_lt.mpr short),
    Bytes.toText?_ofText]
  cases (service.create source store now text world).result with
  | error fault => exact ⟨rfl, (List.append_nil _).symm⟩
  | ok outcome =>
    cases outcome with
    | success => exact ⟨rfl, (List.append_nil _).symm⟩
    | exhausted => exact ⟨rfl, (List.append_nil _).symm⟩
    | failure => exact ⟨rfl, rfl⟩

/-- Bodies that are let through leave the same records, and stores that differ in one value at most. -/
theorem save_alike {store : KeyValueStore σ} {veiled : String → σ → σ → Prop}
    (discreet : ∀ key, store.Discreet key (veiled key)) (alike : ∀ key state, veiled key state state)
    {body other : Bytes} (accepted : Accepted service body) (taken : Accepted service other) (world : ρ × σ) :
    let first := save service source store now body world
    let second := save service source store now other world
    first.log = second.log ∧ ∃ key, veiled key first.state.2 second.state.2 := by
  obtain ⟨text, decoded, fine⟩ := accepted
  obtain ⟨rival, read, sound⟩ := taken
  obtain ⟨result, log, later⟩ :=
    @Service.create_alike ρ σ service now store veiled discreet alike text rival fine sound source world
  obtain ⟨left, first⟩ := @save_accepted ρ σ service source now store body text decoded fine world
  obtain ⟨right, second⟩ := @save_accepted ρ σ service source now store other rival read sound world
  dsimp only
  rw [first, second, left, right, result, log]
  exact ⟨rfl, later⟩

/-- A request to receive a message, with the key that it presents and the store that it comes to. -/
structure Asking where
  body : Bytes
  key : String
  state : Interrupted Backend

namespace Asking

/-- The request is let through with a valid key, and the retrieval of its message ends with an outcome. -/
structure ComesTo (asking : Asking) (service : Service) (now : Instant) (id : String) (outcome : Outcome String) :
    Prop where
  short : (asking.body.length : Int) ≤ service.maxSize
  read : Identifier.read asking.body = .ok ⟨id, asking.key⟩
  valid : ValidKey asking.key
  retrieved :
    (service.retrieve (Interrupted.interface Backend.interface) now id asking.key asking.state).result = .ok outcome

/-- What the broker does about it. -/
def served (asking : Asking) (service : Service) (now : Instant) : Run (Interrupted Backend) (Except Fault String) :=
  receive service (Interrupted.interface Backend.interface) now asking.body asking.state

/-- The reply to an outcome, with the records that are written of it. -/
def told (id : String) : Outcome String → String × Log
  | .success text => (Json.quote text, [])
  | .exhausted => (Json.quote exhaustedText, [])
  | .failure kind message =>
    (Reply.failure (some kind) message,
      warn ("Retrieval of " ++ String.ofList (id.toList.take 100) ++ " failed: " ++ kind.name))

theorem ComesTo.served_eq {asking : Asking} {id : String} {outcome : Outcome String}
    (comes : asking.ComesTo service now id outcome) :
    let run := service.retrieve (Interrupted.interface Backend.interface) now id asking.key asking.state
    asking.served service now = ⟨.ok (told id outcome).1, run.state, run.log ++ (told id outcome).2⟩ := by
  have given : asking.body.isEmpty = false := by
    cases body : asking.body with
    | nil =>
      have read := comes.read
      rw [body] at read
      cases read
    | cons => rfl
  simp only [served, receive, given, Bool.false_eq_true, if_false, if_neg (Int.not_lt.mpr comes.short), comes.read,
    comes.retrieved]
  cases outcome with
  | success text => rw [told, List.append_nil]
  | exhausted => rw [told, List.append_nil]
  | failure kind message => rfl

private theorem told_alike (id : String) {outcome twin : Outcome String} (kinds : outcome.kind? = twin.kind?)
    (same : outcome.kind? ≠ none → outcome = twin) : (told id outcome).2 = (told id twin).2 := by
  cases outcome with
  | success text =>
    cases twin with
    | success => rfl
    | exhausted | failure => cases kinds
  | exhausted | failure => rw [same nofun]

end Asking

/-- Requests to save and to receive give nothing away. Whatever two bodies are accepted to be saved, as those are that
are replied to with an identifier, the records are the same, and the same keys are stored until the same times.
Whatever text is stored for a message and whatever valid key is presented, the records, the count of attempts, and the
reply where it is no text, depend on the kind of outcome alone. -/
theorem nothing_told (service : Service) (source : RandomSource ρ) (now : Instant) :
    let store := Interrupted.interface Backend.interface
    (∀ (body : Bytes) (world : ρ × Interrupted Backend) (identifier : Identifier String),
        (save service source store now body world).result = .ok identifier.write → Accepted service body) ∧
      (∀ (body other : Bytes) (world : ρ × Interrupted Backend), Accepted service body → Accepted service other →
        let first := save service source store now body world
        let second := save service source store now other world
        first.log = second.log ∧ ∀ key, (first.state.2.store.shelf.find? key).map (·.expires) =
          (second.state.2.store.shelf.find? key).map (·.expires)) ∧
      ∀ (id : String) (one other : Asking) (outcome twin : Outcome String),
        Interrupted.Veiled (Backend.Veiled (Key.message id)) one.state other.state →
        one.ComesTo service now id outcome → other.ComesTo service now id twin → outcome.kind? = twin.kind? →
        let first := one.served service now
        let second := other.served service now
        first.log = second.log ∧
          first.state.store.shelf.find? (Key.attempts id) = second.state.store.shelf.find? (Key.attempts id) ∧
          (outcome.kind? ≠ none → first.result = second.result) := by
  intro store
  refine ⟨fun _ _ _ => accepted_of_saved, ?_, ?_⟩
  · intro body other world accepted taken
    obtain ⟨log, key, later⟩ := @save_alike ρ (Interrupted Backend) service source now store
      (fun key => Interrupted.Veiled (Backend.Veiled key)) (fun key => Interrupted.discreet (Backend.discreet key))
      (fun key state => ⟨rfl, .refl key state.store⟩) body other accepted taken world
    exact ⟨log, later.store.shelf.expires⟩
  · intro id one other outcome twin start comes arrives kinds
    obtain ⟨log, later, same⟩ := @Service.retrieve_alike (Interrupted Backend) service now store _ id one.key other.key
      (Interrupted.discreet (Backend.discreet (Key.message id))) comes.valid arrives.valid one.state other.state start
      outcome twin comes.retrieved arrives.retrieved kinds
    dsimp only
    rw [comes.served_eq, arrives.served_eq]
    refine ⟨?_, ?_, ?_⟩
    · dsimp only
      rw [log, Asking.told_alike id kinds same]
    · exact later.store.shelf.others _ (Key.message_ne_attempts id id).symm
    · intro failed
      rw [same failed]

def sampleService : Service := ⟨Duration.day, 3, Identifier.requestSize⟩

/-- The bytes of each draw are equal: zeros first, then ones, and so on. -/
def sampleSource : RandomSource Nat :=
  ⟨fun length count => (.bytes (List.replicate length (UInt8.ofNat count)), count + 1)⟩

/-- A request for the message with the first id there is, under a key of equal bytes, where some text lies in place of
the envelope. -/
def Asking.guess (byte : UInt8) (envelope : String) : Asking :=
  let identifier : Identifier String := ⟨Id.ofBytes (List.replicate 16 0), Base64.encode (List.replicate 32 byte)⟩
  ⟨Bytes.ofText identifier.write, identifier.aesKey,
    ⟨.memory ⟨Shelf.empty.insert (Key.message identifier.messageId) ⟨envelope, some 1⟩⟩, []⟩⟩

private theorem guess_comes (byte : UInt8) (envelope : String) {outcome : Outcome String}
    (tried : (Retrieval.steps sampleService (Interrupted.interface Backend.interface)
      (Id.ofBytes (List.replicate 16 0)) (List.replicate 32 byte) 0 Retrieval.counting.remaining .counting
      (Asking.guess byte envelope).state).result = .ended (.ok outcome)) :
    (Asking.guess byte envelope).ComesTo sampleService 0 (Id.ofBytes (List.replicate 16 0)) outcome := by
  have issued : Identifier.Issued
      ⟨Id.ofBytes (List.replicate 16 0), Base64.encode (List.replicate 32 byte)⟩ (List.replicate 32 byte) :=
    ⟨Id.canonical_ofBytes List.length_replicate, rfl, List.length_replicate⟩
  refine ⟨?_, Identifier.read_write _, ⟨_, _, issued.accepted⟩, ?_⟩
  · exact Int.le_of_eq (congrArg Nat.cast issued.length_write)
  · exact (congrArg Run.result (Service.retrieve_accepted issued.accepted _)).trans (congrArg Retrieval.result tried)

private theorem guess_veiled (one other : UInt8) (envelope twin : String) :
    Interrupted.Veiled (Backend.Veiled (Key.message (Id.ofBytes (List.replicate 16 0))))
      (Asking.guess one envelope).state (Asking.guess other twin).state :=
  ⟨rfl, (Shelf.Veiled.refl _ .empty).insert_here rfl⟩

/-- Two texts are saved in a store that is empty, and two keys are tried where no envelope is. -/
theorem nothing_told_corrupt :
    let saving (text : String) := save sampleService sampleSource (Interrupted.interface Backend.interface) 0
      (Bytes.ofText text) (0, ⟨.memory .empty, []⟩)
    let one := (Asking.guess 1 "?").served sampleService 0
    let other := (Asking.guess 2 "AAAA").served sampleService 0
    (∃ identifier : Identifier String, (saving "one").result = .ok identifier.write) ∧
      (saving "one").log = (saving "another").log ∧ one.log = other.log ∧ one.result = other.result := by
  have created : (sampleService.create sampleSource (Interrupted.interface Backend.interface) 0 "one"
      (0, ⟨.memory .empty, []⟩)).result =
      .ok (.success ⟨Id.ofBytes (List.replicate 16 0), Base64.encode (List.replicate 32 1)⟩) := by rfl
  have replied := (save_created created).1
  have taken : Accepted sampleService (Bytes.ofText "another") := ⟨"another", Bytes.toText?_ofText _, by decide⟩
  have first := @guess_comes 1 "?" (.failure .badKeyOrCorruption "") rfl
  have second := @guess_comes 2 "AAAA" (.failure .badKeyOrCorruption "") rfl
  obtain ⟨accepted, saved, received⟩ := nothing_told sampleService sampleSource 0
  have told := saved _ _ (0, ⟨.memory .empty, []⟩) (accepted _ _ _ replied) taken
  have same := received _ _ _ _ _ (guess_veiled 1 2 "?" "AAAA") first second rfl
  dsimp only at told same ⊢
  exact ⟨⟨_, replied⟩, told.1, same.1, same.2.2 nofun⟩

end Broker.Handler
end ReadOnce
