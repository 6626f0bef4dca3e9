import ReadOnce.Proofs.Creation
import ReadOnce.Proofs.Numeral
import ReadOnce.Proofs.Sequence

/-!
The life of a message at a service that serves one errand after another: it waits with a count of the attempts at it
until it is read, until an attempt beyond the limit destroys it, or until it expires. What the store holds under the
two keys of the message follows the number of attempts.
-/
namespace ReadOnce.Message

open Store

variable {ρ : Type}

/-- A message as it was stored. -/
structure Deposit where
  service : Service
  id : String
  envelope : String
  due : Instant

namespace Deposit

/-- The counter shows a number, and does not expire before the envelope. -/
def Counts (deposit : Deposit) (number : Nat) (shelf : Shelf) : Prop :=
  ∃ time, deposit.due ≤ time ∧
    shelf.find? (Key.attempts deposit.id) = some ⟨toString (number : Int), some time⟩

/-- What is held of a message that was not read so far, by the count that is kept of the attempts at it. -/
structure Waiting (deposit : Deposit) (count : Nat) (shelf : Shelf) : Prop where
  stored : count = 0 ∨ (count : Int) ≤ deposit.service.maxTries →
    shelf.find? (Key.message deposit.id) = some ⟨deposit.envelope, some deposit.due⟩
  destroyed : count ≠ 0 → deposit.service.maxTries < count → shelf.find? (Key.message deposit.id) = none
  unbegun : count = 0 → shelf.find? (Key.attempts deposit.id) = none
  counted : count ≠ 0 → deposit.Counts count shelf

/-- How an attempt of a given number ends at a message that was not read so far, and what it leaves. -/
structure Verdict (deposit : Deposit) (key : Bytes) (number : Nat) (before : Shelf)
    (run : Run Backend (Except Fault (Outcome String))) : Prop where
  read (writable : number < Text.numeralLimit) (within : (number : Int) ≤ deposit.service.maxTries) (text : String)
    (fits : Retrieval.reveal? deposit.envelope key = some text) :
    run.result = .ok (.success text) ∧ run.state.shelf.find? (Key.message deposit.id) = none ∧
      run.state.shelf.find? (Key.attempts deposit.id) = none
  refused (writable : number < Text.numeralLimit) (within : (number : Int) ≤ deposit.service.maxTries)
    (fails : Retrieval.reveal? deposit.envelope key = none) :
    run.result = .ok (.failure .badKeyOrCorruption "") ∧
      run.state.shelf.find? (Key.message deposit.id) = some ⟨deposit.envelope, some deposit.due⟩ ∧
      deposit.Counts number run.state.shelf
  destroyed (writable : number < Text.numeralLimit) (beyond : deposit.service.maxTries < number) :
    run.result = .ok .exhausted ∧ run.state.shelf.find? (Key.message deposit.id) = none ∧
      deposit.Counts number run.state.shelf
  /-- A count of so many digits cannot be written: the store has a fault, and nothing changes. -/
  stuck (unwritable : Text.numeralLimit ≤ number) :
    run.result = .error (.store (.counter .tooLarge)) ∧
      run.state.shelf.find? (Key.message deposit.id) = before.find? (Key.message deposit.id) ∧
      run.state.shelf.find? (Key.attempts deposit.id) = before.find? (Key.attempts deposit.id)

/-- An attempt can be counted now: the store has no faults of its own, the message has not expired, and a counter
begun now would not expire before it. -/
structure Ready (deposit : Deposit) (now : Instant) (state : Backend) : Prop where
  steady : state.Steady
  fresh : now < deposit.due
  late : deposit.due ≤ now + deposit.service.retention
  reached : (now.after? deposit.service.retention).isSome

/-- The count kept of a number of attempts. -/
def tally (attempts : Nat) : Nat := min attempts (Text.numeralLimit - 1)

theorem tally_of_lt {attempts : Nat} (writable : attempts < Text.numeralLimit) : tally attempts = attempts := by
  unfold tally
  omega

theorem tally_last {attempts : Nat} (full : Text.numeralLimit ≤ attempts + 1) :
    tally attempts + 1 = Text.numeralLimit ∧ tally attempts ≠ 0 := by
  have several := Text.Numeral.one_lt_numeralLimit
  unfold tally
  omega

section Attempt

variable {deposit : Deposit} {count : Nat} {state : Backend} {now : Instant}

theorem live_of_find? {shelf : Shelf} {key value : String} {time : Instant}
    (found : shelf.find? key = some ⟨value, some time⟩) (fresh : now < time) :
    shelf.live? now key = some ⟨value, some time⟩ :=
  Shelf.live?_eq_some.mpr ⟨found, decide_eq_true fresh⟩

theorem Waiting.increment (waiting : deposit.Waiting count state.shelf) (ready : deposit.Ready now state)
    (room : count + 1 < Text.numeralLimit) :
    ∃ next : Backend,
      Backend.interface.increment now (Key.attempts deposit.id) (some deposit.service.retention) state =
        (.ok ((count + 1 : Nat) : Int), next) ∧
      next.Steady ∧ deposit.Counts (count + 1) next.shelf ∧
      next.shelf.find? (Key.message deposit.id) = state.shelf.find? (Key.message deposit.id) := by
  have due := counterExpiry_of_after? ready.reached
  have apart := Key.message_ne_attempts deposit.id deposit.id
  by_cases first : count = 0
  · subst first
    have absent : state.shelf.live? now (Key.attempts deposit.id) = none := by
      rw [Shelf.live?, waiting.unbegun rfl]
      rfl
    obtain ⟨next, counted, calm, here, others⟩ :=
      Backend.working.begin_count Backend.lawful ready.steady due absent
    exact ⟨next, counted, calm, ⟨_, ready.late, here⟩, others _ apart⟩
  · obtain ⟨time, order, there⟩ := waiting.counted first
    have live := live_of_find? there (Int.lt_of_lt_of_le ready.fresh order)
    obtain ⟨next, counted, calm, here, others⟩ :=
      Backend.working.count_on Backend.lawful ready.steady due live (nextCount_toString room)
    exact ⟨next, counted, calm, ⟨_, order, here⟩, others _ apart⟩

/-- The attempt beyond the limit destroys the message. -/
theorem Waiting.exhaust (waiting : deposit.Waiting count state.shelf) (ready : deposit.Ready now state)
    (room : count + 1 < Text.numeralLimit) {key : String} {bytes : Bytes}
    (accepted : keyOf deposit.id key = .ok bytes)
    (beyond : deposit.service.maxTries < ((count + 1 : Nat) : Int)) :
    let run := deposit.service.retrieve Backend.interface now deposit.id key state
    run.result = .ok .exhausted ∧ run.state.shelf.find? (Key.message deposit.id) = none ∧
      deposit.Counts (count + 1) run.state.shelf := by
  obtain ⟨next, counted, calm, ⟨time, order, counter⟩, _⟩ := waiting.increment ready room
  obtain ⟨last, removed, _, gone, others⟩ := Backend.working.remove Backend.lawful calm now (Key.message deposit.id)
  have kept := (others _ (Key.message_ne_attempts deposit.id deposit.id).symm).trans counter
  simp only [Service.retrieve, accepted, Retrieval.remaining, Retrieval.steps, Retrieval.step, counted, if_pos beyond,
    removed, Retrieval.result, true_and]
  exact ⟨gone, time, order, kept⟩

/-- An attempt within the limit finds the envelope, and does with it what its key is good for. -/
theorem Waiting.examine (waiting : deposit.Waiting count state.shelf) (ready : deposit.Ready now state)
    (room : count + 1 < Text.numeralLimit) {key : String} {bytes : Bytes}
    (accepted : keyOf deposit.id key = .ok bytes)
    (within : ((count + 1 : Nat) : Int) ≤ deposit.service.maxTries) :
    let run := deposit.service.retrieve Backend.interface now deposit.id key state
    (∀ text, Retrieval.reveal? deposit.envelope bytes = some text →
      run.result = .ok (.success text) ∧ run.state.shelf.find? (Key.message deposit.id) = none ∧
        run.state.shelf.find? (Key.attempts deposit.id) = none) ∧
    (Retrieval.reveal? deposit.envelope bytes = none →
      run.result = .ok (.failure .badKeyOrCorruption "") ∧
        run.state.shelf.find? (Key.message deposit.id) = some ⟨deposit.envelope, some deposit.due⟩ ∧
        deposit.Counts (count + 1) run.state.shelf) := by
  have apart := Key.message_ne_attempts deposit.id deposit.id
  obtain ⟨next, counted, calm, ⟨time, order, counter⟩, same⟩ := waiting.increment ready room
  have there := same.trans (waiting.stored (by omega))
  have live := live_of_find? there ready.fresh
  obtain ⟨read, got, quiet, tidied⟩ := Backend.working.read Backend.lawful calm now (Key.message deposit.id)
  -- reading tidies away only what has expired, and the envelope has not
  have still : read.shelf.find? (Key.message deposit.id) = some ⟨deposit.envelope, some deposit.due⟩ := by
    rcases tidied.here with kept | ⟨expired, _⟩
    · exact kept.trans there
    · rw [live] at expired
      cases expired
  rw [live] at got
  have allowed : ¬ deposit.service.maxTries < ((count + 1 : Nat) : Int) := by omega
  constructor
  · intro text fits
    obtain ⟨claimed, won, silent, gone, _⟩ := Backend.working.remove Backend.lawful quiet now (Key.message deposit.id)
    rw [live_of_find? still ready.fresh] at won
    obtain ⟨cleared, removed, _, forgotten, others⟩ :=
      Backend.working.remove Backend.lawful silent now (Key.attempts deposit.id)
    simp only [Service.retrieve, accepted, Retrieval.remaining, Retrieval.steps, Retrieval.step, counted,
      if_neg allowed, got, Option.map_some, Retrieval.examine, fits, won, Option.isSome_some, removed,
      Retrieval.result, true_and]
    exact ⟨(others _ apart).trans gone, forgotten⟩
  · intro fails
    simp only [Service.retrieve, accepted, Retrieval.remaining, Retrieval.steps, Retrieval.step, counted,
      if_neg allowed, got, Option.map_some, Retrieval.examine, fails, Retrieval.result, true_and]
    exact ⟨still, time, order, (tidied.others _ apart.symm).trans counter⟩

/-- Where the count can not be written any more, an attempt changes nothing. -/
theorem Waiting.stuck (waiting : deposit.Waiting count state.shelf) (ready : deposit.Ready now state)
    (full : count + 1 = Text.numeralLimit) (nonzero : count ≠ 0) {key : String} {bytes : Bytes}
    (accepted : keyOf deposit.id key = .ok bytes) :
    let run := deposit.service.retrieve Backend.interface now deposit.id key state
    run.result = .error (.store (.counter .tooLarge)) ∧
      run.state.shelf.find? (Key.message deposit.id) = state.shelf.find? (Key.message deposit.id) ∧
      run.state.shelf.find? (Key.attempts deposit.id) = state.shelf.find? (Key.attempts deposit.id) := by
  obtain ⟨time, order, there⟩ := waiting.counted nonzero
  have live := live_of_find? there (Int.lt_of_lt_of_le ready.fresh order)
  obtain ⟨next, refused, _, tidied⟩ :=
    ready.steady.increment_fault live (counterExpiry_of_after? ready.reached) (nextCount_toString_last full)
  simp only [Service.retrieve, accepted, Retrieval.remaining, Retrieval.steps, Retrieval.step, refused,
    Retrieval.fail, afterFault, Retrieval.result, true_and]
  refine ⟨tidied.others _ (Key.message_ne_attempts deposit.id deposit.id), ?_⟩
  rcases tidied.here with kept | ⟨expired, _⟩
  · exact kept
  · rw [live] at expired
    cases expired

theorem Waiting.verdict {attempts : Nat} (waiting : deposit.Waiting (tally attempts) state.shelf)
    (ready : deposit.Ready now state) {key : String} {bytes : Bytes} (accepted : keyOf deposit.id key = .ok bytes) :
    deposit.Verdict bytes (attempts + 1) state.shelf
      (deposit.service.retrieve Backend.interface now deposit.id key state) := by
  rcases Nat.lt_or_ge (attempts + 1) Text.numeralLimit with room | full
  · rw [tally_of_lt (Nat.lt_of_succ_lt room)] at waiting
    exact
      { read _ within text fits :=
          (waiting.examine ready room accepted within).1 text fits
        refused _ within fails := (waiting.examine ready room accepted within).2 fails
        destroyed _ beyond := waiting.exhaust ready room accepted beyond
        stuck unwritable := absurd room (Nat.not_lt.mpr unwritable) }
  · obtain ⟨last, nonzero⟩ := tally_last full
    exact
      { read writable := absurd writable (Nat.not_lt.mpr full)
        refused writable := absurd writable (Nat.not_lt.mpr full)
        destroyed writable := absurd writable (Nat.not_lt.mpr full)
        stuck _ := waiting.stuck ready last nonzero accepted }

theorem Waiting.of_undisturbed {before after : Shelf} (waiting : deposit.Waiting count before)
    (fresh : now < deposit.due) (same : Undisturbed now deposit.id before after) : deposit.Waiting count after := by
  -- what was there is live, so it cannot have been tidied away
  refine ⟨fun few => ?_, fun many beyond => ?_, fun zero => ?_, fun several => ?_⟩
  · have there := waiting.stored few
    rcases same.envelope with kept | ⟨expired, _⟩
    · exact kept.trans there
    · rw [live_of_find? there fresh] at expired
      cases expired
  · rcases same.envelope with kept | ⟨_, gone⟩
    · exact kept.trans (waiting.destroyed many beyond)
    · exact gone
  · rcases same.counter with kept | ⟨_, gone⟩
    · exact kept.trans (waiting.unbegun zero)
    · exact gone
  · obtain ⟨time, order, there⟩ := waiting.counted several
    rcases same.counter with kept | ⟨expired, _⟩
    · exact ⟨time, order, kept.trans there⟩
    · rw [live_of_find? there (Int.lt_of_lt_of_le fresh order)] at expired
      cases expired

end Attempt

section Verdict

variable {deposit : Deposit} {key : Bytes} {number : Nat} {before : Shelf}
  {run : Run Backend (Except Fault (Outcome String))}

private theorem Verdict.cases (verdict : deposit.Verdict key number before run) :
    ((∃ text, run.result = .ok (.success text)) ∧ run.state.shelf.find? (Key.message deposit.id) = none) ∨
    (number < Text.numeralLimit ∧ (number : Int) ≤ deposit.service.maxTries ∧
      run.result = .ok (.failure .badKeyOrCorruption "") ∧
      run.state.shelf.find? (Key.message deposit.id) = some ⟨deposit.envelope, some deposit.due⟩ ∧
      deposit.Counts number run.state.shelf) ∨
    (number < Text.numeralLimit ∧ deposit.service.maxTries < number ∧ run.result = .ok .exhausted ∧
      run.state.shelf.find? (Key.message deposit.id) = none ∧ deposit.Counts number run.state.shelf) ∨
    (Text.numeralLimit ≤ number ∧ run.result = .error (.store (.counter .tooLarge)) ∧
      run.state.shelf.find? (Key.message deposit.id) = before.find? (Key.message deposit.id) ∧
      run.state.shelf.find? (Key.attempts deposit.id) = before.find? (Key.attempts deposit.id)) := by
  rcases Nat.lt_or_ge number Text.numeralLimit with writable | unwritable
  · rcases Int.lt_or_le deposit.service.maxTries number with beyond | within
    · exact .inr (.inr (.inl ⟨writable, beyond, verdict.destroyed writable beyond⟩))
    · cases opened : Retrieval.reveal? deposit.envelope key with
      | none => exact .inr (.inl ⟨writable, within, verdict.refused writable within opened⟩)
      | some text =>
        obtain ⟨answer, gone, _⟩ := verdict.read writable within text opened
        exact .inl ⟨⟨text, answer⟩, gone⟩
  · exact .inr (.inr (.inr ⟨unwritable, verdict.stuck unwritable⟩))

theorem Verdict.waiting {attempts : Nat} (verdict : deposit.Verdict key (attempts + 1) before run)
    (waiting : deposit.Waiting (tally attempts) before) (unread : ∀ text, run.result ≠ .ok (.success text)) :
    deposit.Waiting (tally (attempts + 1)) run.state.shelf := by
  rcases verdict.cases with ⟨⟨text, answer⟩, _⟩ | ⟨writable, within, _, there, counts⟩ |
    ⟨writable, beyond, _, gone, counts⟩ | ⟨unwritable, _, envelope, counter⟩
  · exact absurd answer (unread text)
  · rw [tally_of_lt writable]
    exact ⟨fun _ => there, fun _ beyond => absurd within (Int.not_le.mpr beyond), nofun, fun _ => counts⟩
  · rw [tally_of_lt writable]
    refine ⟨fun few => ?_, fun _ _ => gone, nofun, fun _ => counts⟩
    rcases few with zero | within
    · cases zero
    · exact absurd within (Int.not_le.mpr beyond)
  · have same : tally (attempts + 1) = tally attempts := by
      unfold tally
      omega
    rw [same]
    refine ⟨?_, ?_, ?_, ?_⟩
    · rw [envelope]
      exact waiting.stored
    · rw [envelope]
      exact waiting.destroyed
    · rw [counter]
      exact waiting.unbegun
    · unfold Counts
      rw [counter]
      exact waiting.counted

theorem Verdict.gone (verdict : deposit.Verdict key number before run)
    (ended : run.result = .ok .exhausted ∨ ∃ text, run.result = .ok (.success text)) :
    run.state.shelf.find? (Key.message deposit.id) = none := by
  rcases verdict.cases with ⟨_, gone⟩ | ⟨_, _, answer, _⟩ | ⟨_, _, _, gone, _⟩ | ⟨_, answer, _⟩
  · exact gone
  · rcases ended with ended | ⟨text, ended⟩ <;> rw [answer] at ended <;> cases ended
  · exact gone
  · rcases ended with ended | ⟨text, ended⟩ <;> rw [answer] at ended <;> cases ended

end Verdict

/-- How a message stands after a number of attempts, of which one may have opened or exhausted it. -/
structure Standing (deposit : Deposit) (attempts : Nat) (opened exhausted : Bool) (now : Instant) (state : Backend) :
    Prop where
  steady : state.Steady
  late : deposit.due ≤ now + deposit.service.retention
  waiting : now < deposit.due → opened = false → deposit.Waiting (tally attempts) state.shelf
  barred : opened = true ∨ exhausted = true ∨ deposit.due ≤ now →
    state.shelf.live? now (Key.message deposit.id) = none

namespace Standing

variable {deposit : Deposit} {attempts : Nat} {opened exhausted : Bool} {now : Instant} {state : Backend}

theorem later {time : Instant} (standing : deposit.Standing attempts opened exhausted now state)
    (order : now ≤ time) :
    deposit.Standing attempts opened exhausted time state := by
  have barred (gone : state.shelf.live? now (Key.message deposit.id) = none) :
      state.shelf.live? time (Key.message deposit.id) = none := by
    refine Shelf.live?_eq_none.mpr fun entry found => ?_
    have expired := Shelf.live?_eq_none.mp gone entry found
    cases live : entry.isLive time with
    | false => rfl
    | true => rw [Entry.isLive_earlier order live] at expired; cases expired
  refine ⟨standing.steady, Int.le_trans standing.late (Int.add_le_add_right order _), ?_, ?_⟩
  · exact fun fresh unread => standing.waiting (Int.lt_of_le_of_lt order fresh) unread
  · intro ended
    by_cases already : opened = true ∨ exhausted = true ∨ deposit.due ≤ now
    · exact barred (standing.barred already)
    · -- it was waiting before it expired
      have unread : opened = false := by
        cases opened with
        | false => rfl
        | true => exact absurd (.inl rfl) already
      have expired : deposit.due ≤ time := by
        rcases ended with read | used | expired
        · exact absurd (.inl read) already
        · exact absurd (.inr (.inl used)) already
        · exact expired
      have waiting := standing.waiting (Int.not_le.mp fun due => already (.inr (.inr due))) unread
      refine Shelf.live?_eq_none.mpr fun entry found => ?_
      by_cases few : tally attempts = 0 ∨ (tally attempts : Int) ≤ deposit.service.maxTries
      · rw [waiting.stored few] at found
        cases found
        exact decide_eq_false (Int.not_lt.mpr expired)
      · rw [waiting.destroyed (by omega) (by omega)] at found
        cases found

theorem undisturbed {next : Backend} (standing : deposit.Standing attempts opened exhausted now state)
    (steady : next.Steady) (same : Undisturbed now deposit.id state.shelf next.shelf) :
    deposit.Standing attempts opened exhausted now next := by
  refine ⟨steady, standing.late, fun fresh unread => (standing.waiting fresh unread).of_undisturbed fresh same, ?_⟩
  intro ended
  have gone := standing.barred ended
  rcases same.envelope with kept | ⟨_, nothing⟩
  · rw [Shelf.live?, kept]
    exact gone
  · rw [Shelf.live?, nothing]
    rfl

theorem tried (standing : deposit.Standing attempts opened exhausted now state)
    (reached : (now.after? deposit.service.retention).isSome) {key : String} {bytes : Bytes}
    (accepted : keyOf deposit.id key = .ok bytes) :
    let run := deposit.service.retrieve Backend.interface now deposit.id key state
    deposit.Standing (attempts + 1) (opened || (Answer.retrieved deposit.id run.result).opens deposit.id)
      (exhausted || (Answer.retrieved deposit.id run.result).exhausts deposit.id) now run.state := by
  intro run
  have steady := Service.retrieve_steady standing.steady deposit.service now deposit.id key
  -- while it waits the attempt has its verdict; afterwards its envelope is barred for good
  by_cases waits : now < deposit.due ∧ opened = false
  · obtain ⟨fresh, rfl⟩ := waits
    have waiting := standing.waiting fresh rfl
    have verdict := waiting.verdict ⟨standing.steady, fresh, standing.late, reached⟩ accepted
    simp only [Bool.false_or]
    refine ⟨steady, standing.late, fun _ unread => verdict.waiting waiting fun text same => ?_, fun ended => ?_⟩
    · rw [Answer.opens_retrieved.mpr ⟨text, same⟩] at unread
      cases unread
    · have nothing (gone : run.state.shelf.find? (Key.message deposit.id) = none) :
          run.state.shelf.live? now (Key.message deposit.id) = none := by
        rw [Shelf.live?, gone]
        rfl
      rcases ended with read | used | expired
      · exact nothing (verdict.gone (.inr (Answer.opens_retrieved.mp read)))
      · rcases (Bool.or_eq_true _ _).mp used with before | now
        · exact (Service.retrieve_barred Backend.lawful key (standing.barred (.inr (.inl before)))).1
        · exact nothing (verdict.gone (.inl (Answer.exhausts_retrieved.mp now)))
      · exact absurd fresh (Int.not_lt.mpr expired)
  · have ended : opened = true ∨ exhausted = true ∨ deposit.due ≤ now := by
      cases opened with
      | true => exact .inl rfl
      | false => exact .inr (.inr (Int.not_lt.mp fun fresh => waits ⟨fresh, rfl⟩))
    obtain ⟨gone, _⟩ := Service.retrieve_barred Backend.lawful key (standing.barred ended)
    refine ⟨steady, standing.late, fun fresh unread => ?_, fun _ => gone⟩
    exact absurd ⟨fresh, (Bool.or_eq_false_iff.mp unread).1⟩ waits

theorem serve {source : RandomSource ρ} {errand : Errand} {desk : ρ × Backend}
    (standing : deposit.Standing attempts opened exhausted errand.now desk.2)
    (reached : (errand.now.after? deposit.service.retention).isSome)
    (other : (deposit.service.serve source errand desk).1.creates deposit.id = false) :
    deposit.Standing (attempts + (errand.tries deposit.id).toNat)
      (opened || (deposit.service.serve source errand desk).1.opens deposit.id)
      (exhausted || (deposit.service.serve source errand desk).1.exhausts deposit.id) errand.now
      (deposit.service.serve source errand desk).2.2 := by
  obtain ⟨dice, state⟩ := desk
  obtain ⟨now, action⟩ := errand
  cases action with
  | create text =>
    have steady := Service.create_steady standing.steady deposit.service source now text dice
    have same := Service.create_elsewhere Backend.lawful source text (dice, state) other
    simpa [Service.serve, Errand.tries, Answer.opens, Answer.exhausts] using standing.undisturbed steady same
  | retrieve target key =>
    have steady := Service.retrieve_steady standing.steady deposit.service now target key
    by_cases apart : target = deposit.id
    · subst apart
      -- an attempt whose key does not pass the check is not counted
      cases accepted : keyOf deposit.id key with
      | error fault =>
        simpa [Service.serve, Service.retrieve, Errand.tries, accepted, Answer.opens, Answer.exhausts, Except.isOk,
          Except.toBool] using standing
      | ok bytes =>
        have tries : Errand.tries deposit.id ⟨now, .retrieve deposit.id key⟩ = true := by
          simp [Errand.tries, accepted, Except.isOk, Except.toBool]
        rw [tries]
        exact standing.tried reached accepted
    · have same : Undisturbed now deposit.id state.shelf
          (deposit.service.retrieve Backend.interface now target key state).state.shelf :=
        Service.retrieve_elsewhere Backend.lawful apart key state
      have tries : Errand.tries deposit.id ⟨now, .retrieve target key⟩ = false := by simp [Errand.tries, apart]
      obtain ⟨opens, exhausts⟩ := Answer.quiet_elsewhere apart
        (deposit.service.retrieve Backend.interface now target key state).result
      simp only [Service.serve, tries, opens, exhausts, Bool.or_false]
      exact standing.undisturbed steady same

/-- Any run of errands that does not create the message again. -/
theorem serveAll {source : RandomSource ρ} (errands : List Errand) {desk : ρ × Backend} {finish : Instant}
    (standing : deposit.Standing attempts opened exhausted now desk.2)
    (ordered : (now :: errands.map Errand.now ++ [finish]).Pairwise (· ≤ ·))
    (reached : ∀ errand ∈ errands, (errand.now.after? deposit.service.retention).isSome)
    (others : ∀ answer ∈ (deposit.service.serveAll source errands desk).1, answer.creates deposit.id = false) :
    deposit.Standing (attempts + errands.countP (·.tries deposit.id))
      (opened || (deposit.service.serveAll source errands desk).1.any (·.opens deposit.id))
      (exhausted || (deposit.service.serveAll source errands desk).1.any (·.exhausts deposit.id)) finish
      (deposit.service.serveAll source errands desk).2.2 := by
  induction errands generalizing attempts opened exhausted now desk with
  | nil =>
    have order : now ≤ finish := by simpa using ordered
    simpa [Service.serveAll] using standing.later order
  | cons errand rest ih =>
    obtain ⟨least, tail⟩ := List.pairwise_cons.mp ordered
    rw [Service.serveAll_cons] at others ⊢
    have current := standing.later (least errand.now List.mem_cons_self)
    have next := current.serve (reached errand List.mem_cons_self) (others _ List.mem_cons_self)
    have done := ih next tail (fun other member => reached other (List.mem_cons_of_mem _ member))
      (fun answer member => others answer (List.mem_cons_of_mem _ member))
    have count : attempts + (errand.tries deposit.id).toNat + rest.countP (·.tries deposit.id) =
        attempts + (errand :: rest).countP (·.tries deposit.id) := by
      rw [Traffic.countP_cons_toNat]
      omega
    rw [List.any_cons, List.any_cons, ← Bool.or_assoc, ← Bool.or_assoc, ← count]
    exact done

end Standing
end Deposit

/-- A message is created, other errands are served after it, and then there is an attempt at a given time. -/
structure Course (ρ : Type) where
  service : Service
  source : RandomSource ρ
  dice : ρ
  store : Backend
  created : Instant
  text : String
  errands : List Errand
  now : Instant

namespace Course

def creation (course : Course ρ) : Run (ρ × Backend) (Except Fault (Outcome (Identifier String))) :=
  course.service.create course.source Backend.interface course.created course.text (course.dice, course.store)

/-- The answers to the errands after the creation, and what they lead to. -/
def served (course : Course ρ) : List Answer × (ρ × Backend) :=
  course.service.serveAll course.source course.errands course.creation.state

def attempt (course : Course ρ) (id key : String) : Run Backend (Except Fault (Outcome String)) :=
  course.service.retrieve Backend.interface course.now id key course.served.2.2

/-- The creation succeeds where no attempts at its message are counted, the store has no faults of its own, nobody
creates the same message again, the clock is not set back, and the calendar has all times that are reckoned. -/
structure Calm (id keyText : String) (course : Course ρ) : Prop where
  steady : course.store.Steady
  uncounted : course.store.shelf.find? (Key.attempts id) = none
  success : course.creation.result = .ok (.success ⟨id, keyText⟩)
  others : ∀ answer ∈ course.served.1, answer.creates id = false
  ordered : (course.created :: course.errands.map Errand.now ++ [course.now]).Pairwise (· ≤ ·)
  reached : ∀ time ∈ course.errands.map Errand.now ++ [course.now],
    (Instant.after? time course.service.retention).isSome

theorem Calm.begins {course : Course ρ} {id keyText envelope : String} (calm : course.Calm id keyText)
    (there : course.creation.state.2.shelf.find? (Key.message id) =
      some ⟨envelope, some (course.created + course.service.retention)⟩)
    (others : SameBut (Key.message id) course.store.shelf course.creation.state.2.shelf) :
    Deposit.Standing ⟨course.service, id, envelope, course.created + course.service.retention⟩ 0 false false
      course.created course.creation.state.2 := by
  have counter := (others _ (Key.message_ne_attempts id id).symm).trans calm.uncounted
  have zero : Deposit.tally 0 = 0 := Nat.zero_min _
  refine ⟨?_, Int.le_refl _, fun _ _ => ?_, fun ended => ?_⟩
  · exact Service.create_steady calm.steady course.service course.source course.created course.text course.dice
  · rw [zero]
    exact ⟨fun _ => there, fun nonzero => absurd rfl nonzero, fun _ => counter, fun nonzero => absurd rfl nonzero⟩
  · refine Shelf.live?_eq_none.mpr fun entry found => ?_
    rw [there] at found
    cases found
    rcases ended with read | used | expired
    · cases read
    · cases used
    · exact decide_eq_false (Int.not_lt.mpr expired)

/-- The key handed out opens the envelope that was stored. Before it expires, and as long as it was not read, the
attempt made now ends by its number and by what its key is good for; once the message was read, was destroyed by an
attempt beyond the limit, or has expired, no attempt gives a text. -/
theorem lifecycle {course : Course ρ} {id keyText : String} (calm : course.Calm id keyText) :
    ∃ envelope secret, Base64.decode? keyText = some secret ∧ Retrieval.reveal? envelope secret = some course.text ∧
      let deposit : Deposit := ⟨course.service, id, envelope, course.created + course.service.retention⟩
      course.creation.state.2.shelf.find? (Key.message id) = some ⟨envelope, some deposit.due⟩ ∧
      (∀ key bytes, keyOf id key = .ok bytes → course.now < deposit.due →
        (∀ answer ∈ course.served.1, answer.opens id = false) →
        deposit.Verdict bytes (course.errands.countP (·.tries id) + 1) course.served.2.2.shelf
          (course.attempt id key)) ∧
      ((∃ answer ∈ course.served.1, answer.opens id = true ∨ answer.exhausts id = true) ∨ deposit.due ≤ course.now →
        ∀ key text, (course.attempt id key).result ≠ .ok (.success text)) := by
  obtain ⟨envelope, secret, drawn, written, there, others⟩ := Service.create_deposits Backend.lawful calm.success
  have opens := (Creation.draw_forms drawn).reveal?
  have decoded : Base64.decode? keyText = some secret := by
    rw [show keyText = Base64.encode secret from written, Base64.decode?_encode]
  have standing := (calm.begins there others).serveAll course.errands calm.ordered
    (fun errand member => calm.reached _ (List.mem_append_left _ (List.mem_map_of_mem member))) calm.others
  refine ⟨envelope, secret, decoded, opens, there, ?_, ?_⟩
  · intro key bytes accepted fresh unread
    have unopened : (false || course.served.1.any (·.opens id)) = false := by
      rw [Bool.false_or, List.any_eq_false]
      intro answer member
      rw [unread answer member]
      exact Bool.false_ne_true
    have reached := calm.reached course.now (List.mem_append_right _ List.mem_cons_self)
    have waiting := standing.waiting fresh unopened
    have verdict := waiting.verdict ⟨standing.steady, fresh, standing.late, reached⟩ accepted
    rw [Nat.zero_add] at verdict
    exact verdict
  · intro ended key
    refine (Service.retrieve_barred Backend.lawful key (standing.barred ?_)).2
    rcases ended with ⟨answer, member, read | used⟩ | expired
    · exact .inl (by rw [Bool.false_or]; exact List.any_eq_true.mpr ⟨answer, member, read⟩)
    · exact .inr (.inl (by rw [Bool.false_or]; exact List.any_eq_true.mpr ⟨answer, member, used⟩))
    · exact .inr (.inr expired)

/-- A message that may be tried once, with another one created and a key of the wrong form presented before. -/
def visit : Course Nat where
  service := ⟨Duration.day, 1, 100⟩
  source := ⟨fun length count => (.bytes (List.replicate length (UInt8.ofNat count)), count + 1)⟩
  dice := 0
  store := .table Table.empty
  created := 0
  text := "text"
  errands := [⟨1, .create "other"⟩, ⟨1, .retrieve (Id.ofBytes (List.replicate 16 0)) "no key"⟩]
  now := 2

private theorem visit_accepted :
    keyOf (Id.ofBytes (List.replicate 16 0)) (Base64.encode (List.replicate 32 1)) = .ok (List.replicate 32 1) := by
  rfl

set_option maxRecDepth 4000 in
theorem lifecycle_visit :
    let id := Id.ofBytes (List.replicate 16 0)
    let keyText := Base64.encode (List.replicate 32 1)
    visit.Calm id keyText ∧ (visit.attempt id keyText).result = .ok (.success "text") ∧
      (visit.attempt id keyText).state.shelf.find? (Key.message id) = none ∧
      (visit.attempt id keyText).state.shelf.find? (Key.attempts id) = none := by
  intro id keyText
  have calm : visit.Calm id keyText :=
    ⟨⟨rfl, by decide⟩, rfl, rfl, by decide +kernel, by decide, by decide⟩
  obtain ⟨envelope, secret, decoded, opens, _, verdict, _⟩ := lifecycle calm
  rw [Base64.decode?_encode] at decoded
  cases decoded
  have first : visit.errands.countP (·.tries id) = 0 := by decide +kernel
  have unread : ∀ answer ∈ visit.served.1, answer.opens id = false := by decide +kernel
  have fresh : visit.now < visit.created + visit.service.retention := by decide
  have within : ((0 + 1 : Nat) : Int) ≤ visit.service.maxTries := by decide
  have attempt := verdict keyText (List.replicate 32 1) visit_accepted fresh unread
  rw [first] at attempt
  exact ⟨calm, attempt.read Text.Numeral.one_lt_numeralLimit within "text" opens⟩

end Course
end ReadOnce.Message
