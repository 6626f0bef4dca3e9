import ReadOnce.Proofs.Numeral
import ReadOnce.Proofs.Store.Agreement
import ReadOnce.Store.Remote

/-!
Counters on a server of their own. A counter is begun by one command and given its expiry by a second one, so a fault
between the two leaves a counter that never expires: the call is refused, but it was counted, and as only a counter
that begins is given an expiry, no later call makes up for it. Nothing else leaves a counter without an expiry, and no
other call that is refused changes a counter.
-/
namespace ReadOnce.Store

variable {σ : Type}

/-- The key a command is about. -/
def Command.key? : Command → Option String
  | set key _ _ | get key | delete key | increment key | expire key _ => some key
  | ping | close => none

/-- What a command does to the entries of a server, by what comes back. It happens as a whole, or it fails and nothing
has happened. -/
inductive Command.Effect (before after : Shelf) : Command → Except Trouble Answer → Prop where
  | failed {command : Command} {trouble : Trouble} (same : after.find? = before.find?) :
      Effect before after command (.error trouble)
  | idle {command : Command} {answer : Answer} (quiet : command = .ping ∨ command = .close)
      (same : after.find? = before.find?) : Effect before after command (.ok answer)
  | stored {key value : String} {lifetime : Lifetime} {time : Instant} {answer : Answer}
      (here : after.find? key = some ⟨value, some time⟩) (others : SameBut key before after) :
      Effect before after (.set key value lifetime) (.ok answer)
  | read {key : String} {answer : Answer} (same : after.find? = before.find?) :
      Effect before after (.get key) (.ok answer)
  | removed {key : String} {count : Int} (here : after.find? key = none) (others : SameBut key before after) :
      Effect before after (.delete key) (.ok (.value (.int count)))
  /-- A counter that begins has no expiry. -/
  | begun {key : String} (absent : before.find? key = none) (here : after.find? key = some ⟨"1", none⟩)
      (others : SameBut key before after) : Effect before after (.increment key) (.ok (.value (.int 1)))
  | grown {key : String} {entry : Entry} {count : Int} (found : before.find? key = some entry)
      (written : entry.value = toString count)
      (here : after.find? key = some { entry with value := toString (count + 1) })
      (others : SameBut key before after) : Effect before after (.increment key) (.ok (.value (.int (count + 1))))
  /-- An entry whose time has come already is gone. -/
  | dated {key : String} {lifetime : Lifetime} {entry : Entry} {answer : Answer}
      (found : before.find? key = some entry)
      (here : after.find? key = none ∨ ∃ time, after.find? key = some { entry with expires := some time })
      (others : SameBut key before after) : Effect before after (.expire key lifetime) (.ok answer)
  | missed {key : String} {lifetime : Lifetime} {answer : Answer} (absent : before.find? key = none)
      (same : after.find? = before.find?) : Effect before after (.expire key lifetime) (.ok answer)

theorem Command.Effect.find?_eq {before after : Shelf} {command : Command} {result : Except Trouble Answer}
    (effect : command.Effect before after result) {key : String} (apart : command.key? ≠ some key) :
    after.find? key = before.find? key := by
  cases effect with
  | failed same | idle _ same | read same | missed _ same => exact congrFun same key
  | stored _ others | removed _ others | begun _ _ others | grown _ _ _ others | dated _ _ others =>
    exact others key fun here => apart (congrArg some here.symm)

/-- A server behind a connection: what its commands do, and that time takes only entries that have an expiry. -/
structure Connection.Serves (connection : Connection σ) (shelf : σ → Shelf) (wait : Duration → σ → σ) : Prop where
  send (command : Command) (state : σ) :
    command.Effect (shelf state) (shelf (connection.send command state).2) (connection.send command state).1
  wait (duration : Duration) (state : σ) (key : String) :
    (shelf (wait duration state)).find? key = (shelf state).find? key ∨
      ∃ entry, (shelf state).find? key = some entry ∧ entry.expires.isSome = true ∧
        (shelf (wait duration state)).find? key = none

/-- A server that keeps its entries on a shelf, with the trouble that is in store for the commands to come. -/
structure Server where
  shelf : Shelf
  now : Instant
  plan : List (Option Trouble)

namespace Server

/-- The time to which an entry is kept. The server reckons in whole seconds, and in none of them nothing is kept. -/
def due? (now : Instant) : Lifetime → Option Instant
  | .lasting duration =>
    let seconds := duration / Duration.second
    if 0 < seconds then some (now + seconds * Duration.second) else none
  | .shortest => some (now + 1000)

/-- The count that a value is, if it is written as the server writes counts and has room for one more. -/
def count? (value : String) : Option Int :=
  match Text.Numeral.parse value with
  | .ok count =>
    if value = toString count ∧ -0x8000000000000000 ≤ count ∧ count < 0x7fffffffffffffff then some count else none
  | .error _ => none

/-- Gives an entry its expiry, or removes it if its time has come already. -/
def date (server : Server) (key : String) (entry : Entry) (lifetime : Lifetime) : Server :=
  match due? server.now lifetime with
  | some time => { server with shelf := server.shelf.insert key { entry with expires := some time } }
  | none => { server with shelf := server.shelf.erase key }

def carry (server : Server) : Command → Except Trouble Answer × Server
  | .set key value lifetime =>
    match due? server.now lifetime with
    | some time => (.ok (.value (.bool true)), { server with shelf := server.shelf.insert key ⟨value, some time⟩ })
    | none => (.error ⟨.response, "invalid expire time"⟩, server)
  | .get key => (.ok (.value (((server.shelf.find? key).map fun entry => .text entry.value).getD .null)), server)
  | .delete key =>
    let count := if (server.shelf.find? key).isSome then 1 else 0
    (.ok (.value (.int count)), { server with shelf := server.shelf.erase key })
  | .increment key =>
    match server.shelf.find? key with
    | none => (.ok (.value (.int 1)), { server with shelf := server.shelf.insert key ⟨"1", none⟩ })
    | some entry =>
      match count? entry.value with
      | some count =>
        (.ok (.value (.int (count + 1))),
          { server with shelf := server.shelf.insert key { entry with value := toString (count + 1) } })
      | none => (.error ⟨.response, "value is not an integer or out of range"⟩, server)
  | .expire key lifetime =>
    match server.shelf.find? key with
    | some entry => (.ok (.value (.int 1)), server.date key entry lifetime)
    | none => (.ok (.value (.int 0)), server)
  | .ping | .close => (.ok (.value (.bool true)), server)

/-- Carries out a command, if no trouble is in store for it. -/
def connection : Connection Server where
  send command server :=
    let rest := { server with plan := server.plan.drop 1 }
    match server.plan.head?.join with
    | some trouble => (.error trouble, rest)
    | none => rest.carry command

/-- Lets time pass, and drops what has expired. -/
def wait (duration : Duration) (server : Server) : Server :=
  { server with now := server.now + duration, shelf := server.shelf.live (server.now + duration) }

theorem count?_eq_some {value : String} {count : Int} (found : count? value = some count) :
    value = toString count := by
  unfold count? at found
  split at found
  · split at found
    · next written =>
      cases found
      exact written.1
    · cases found
  · cases found

theorem date_here (server : Server) (key : String) (entry : Entry) (lifetime : Lifetime) :
    (server.date key entry lifetime).shelf.find? key = none ∨
      ∃ time, (server.date key entry lifetime).shelf.find? key = some { entry with expires := some time } := by
  unfold date
  split
  · next time _ => exact .inr ⟨time, by simp⟩
  · exact .inl (by simp)

theorem date_others (server : Server) (key : String) (entry : Entry) (lifetime : Lifetime) :
    SameBut key server.shelf (server.date key entry lifetime).shelf := by
  unfold date
  split
  · exact .insert key _ _
  · exact .erase key _

theorem carry_effect (server : Server) (command : Command) :
    command.Effect server.shelf (server.carry command).2.shelf (server.carry command).1 := by
  cases command with
  | set key value lifetime =>
    simp only [carry]
    split
    · next time _ => exact .stored (Shelf.find?_insert_self _ key ⟨value, some time⟩) (.insert key _ _)
    · exact .failed rfl
  | get key => exact .read rfl
  | delete key => exact .removed (by simp [carry]) (.erase key _)
  | increment key =>
    simp only [carry]
    split
    · next absent => exact .begun absent (by simp) (.insert key _ _)
    · next entry found =>
      split
      · next count written =>
        exact .grown found (count?_eq_some written) (by simp) (.insert key _ _)
      · exact .failed rfl
  | expire key lifetime =>
    simp only [carry]
    split
    · next entry found =>
      exact .dated found (server.date_here key entry lifetime) (server.date_others key entry lifetime)
    · next absent => exact .missed absent rfl
  | ping => exact .idle (.inl rfl) rfl
  | close => exact .idle (.inr rfl) rfl

theorem serves : connection.Serves Server.shelf wait where
  send command server := by
    unfold connection
    dsimp only
    split
    · exact .failed rfl
    · exact carry_effect { server with plan := server.plan.drop 1 } command
  wait duration server key := by
    have kept : (wait duration server).shelf.find? key = server.shelf.live? (server.now + duration) key :=
      Shelf.find?_live
    rw [kept, Shelf.live?]
    cases found : server.shelf.find? key with
    | none => exact .inl rfl
    | some entry =>
      cases live : entry.isLive (server.now + duration) with
      | true => exact .inl (by simp [live])
      | false =>
        refine .inr ⟨entry, rfl, ?_, by simp [live]⟩
        rw [Option.isSome_iff_ne_none]
        intro never
        simp [Entry.isLive, never] at live

end Server

/-- What is asked of the server in the course of time. -/
inductive Errand where
  | increment (key : String) (duration : Duration)
  | get (key : String)
  | delete (key : String)
  | wait (duration : Duration)
deriving DecidableEq, Repr

/-- An errand that was run, with the fault that was raised and the entries before and after it. -/
structure Errand.Report where
  errand : Errand
  fault? : Option RemoteFault
  before : Shelf
  after : Shelf

namespace Errand

/-- The fault that a call raises, if it does. -/
def raised? {α : Type} : Except RemoteFault α → Option RemoteFault
  | .ok _ => none
  | .error fault => some fault

/-- What is seen of a call, and what it leaves. -/
def told {α : Type} (answered : Except RemoteFault α × σ) : Option RemoteFault × σ := (raised? answered.1, answered.2)

section Runs

variable (connection : Connection σ) (shelf : σ → Shelf) (wait : Duration → σ → σ)

def run (errand : Errand) (state : σ) : Option RemoteFault × σ :=
  match errand with
  | increment key duration => told (connection.increment key (some duration) state)
  | get key => told (connection.get key state)
  | delete key => told (connection.delete key state)
  | .wait duration => (none, wait duration state)

def runAll (errands : List Errand) (state : σ) : σ :=
  errands.foldl (fun state errand => (errand.run connection wait state).2) state

def report (errand : Errand) (state : σ) : Report :=
  ⟨errand, (errand.run connection wait state).1, shelf state, shelf (errand.run connection wait state).2⟩

/-- One report for each errand, in their order. -/
def reports : List Errand → σ → List Report
  | [], _ => []
  | errand :: rest, state =>
    errand.report connection shelf wait state :: reports rest (errand.run connection wait state).2

end Runs
end Errand

namespace Shelf

/-- There is an entry that never expires. -/
def Undated (key : String) (shelf : Shelf) : Prop := ∃ entry, shelf.find? key = some entry ∧ entry.expires = none

/-- What lies under a key, if anything, is a count. -/
def Counts (key : String) (shelf : Shelf) : Prop :=
  ∀ entry, shelf.find? key = some entry → ∃ count : Nat, 0 < count ∧ entry.value = toString (count : Int)

variable {key : String} {shelf other : Shelf}

theorem not_undated_of_none (absent : shelf.find? key = none) : ¬ shelf.Undated key := by
  rintro ⟨entry, found, _⟩
  rw [absent] at found
  cases found

theorem not_undated_of_dated (dated : ∀ entry, shelf.find? key = some entry → entry.expires.isSome = true) :
    ¬ shelf.Undated key := by
  rintro ⟨entry, found, never⟩
  have timed := dated entry found
  rw [never] at timed
  cases timed

theorem undated_of_grown {entry : Entry} {value : String} (found : other.find? key = some entry)
    (here : shelf.find? key = some { entry with value }) : shelf.Undated key ↔ other.Undated key := by
  simp [Undated, found, here]

theorem undated_congr (same : shelf.find? key = other.find? key) : shelf.Undated key ↔ other.Undated key := by
  rw [Undated, Undated, same]

theorem counts_of_none (absent : shelf.find? key = none) : shelf.Counts key := by
  intro entry found
  rw [absent] at found
  cases found

end Shelf

namespace Errand.Report

variable {key : String} {report : Report}

/-- A counter was begun, and the call that began it was refused before the counter had an expiry. -/
structure Abandons (key : String) (report : Report) : Prop where
  counting : ∃ duration, report.errand = .increment key duration
  refused : report.fault?.isSome = true
  absent : report.before.find? key = none
  left : report.after.find? key = some ⟨"1", none⟩

/-- A removal was answered. -/
def Removes (key : String) (report : Report) : Prop := report.errand = .delete key ∧ report.fault? = none

/-- A counter was abandoned and has not been removed since. -/
def Abandoned (key : String) (reports : List Report) : Prop :=
  ∃ front report rest, reports = front ++ report :: rest ∧ report.Abandons key ∧ ∀ later ∈ rest, ¬ later.Removes key

/-- What an errand may come to under a key. -/
inductive Course (key : String) (report : Report) : Prop where
  | kept (same : report.after.find? key = report.before.find? key) (stays : ¬ report.Removes key)
  | removed (removes : report.Removes key) (gone : report.after.find? key = none)
  | expired {entry : Entry} (quiet : report.fault? = none) (found : report.before.find? key = some entry)
      (dated : entry.expires.isSome = true) (gone : report.after.find? key = none)
  | begun (quiet : report.fault? = none) (absent : report.before.find? key = none)
      (left : ∀ entry, report.after.find? key = some entry → entry.value = "1" ∧ entry.expires.isSome = true)
  | abandoned (abandons : report.Abandons key)
  | grown {count : Nat} {entry : Entry} (stays : ¬ report.Removes key) (quiet : report.fault? = none)
      (found : report.before.find? key = some entry)
      (here : report.after.find? key = some { entry with value := toString ((count + 1 : Nat) : Int) })

theorem Abandons.undated (abandons : report.Abandons key) : report.after.Undated key := ⟨_, abandons.left, rfl⟩

theorem not_removes (apart : report.errand ≠ .delete key) : ¬ report.Removes key := fun removes => apart removes.1

namespace Course

theorem counts (course : report.Course key) (counts : report.before.Counts key) : report.after.Counts key := by
  cases course with
  | kept same _ =>
    intro entry found
    exact counts entry (same.symm.trans found)
  | removed _ gone | expired _ _ _ gone => exact Shelf.counts_of_none gone
  | begun _ _ left =>
    intro entry found
    exact ⟨1, Nat.one_pos, (left entry found).1⟩
  | abandoned abandons =>
    intro entry found
    rw [abandons.left] at found
    cases found
    exact ⟨1, Nat.one_pos, rfl⟩
  | @grown count _ _ _ _ here =>
    intro entry found
    rw [here] at found
    cases found
    exact ⟨count + 1, Nat.succ_pos count, rfl⟩

private theorem undated_iff_of_same (same : report.after.Undated key ↔ report.before.Undated key)
    (stays : ¬ report.Removes key) :
    report.after.Undated key ↔ report.Abandons key ∨ report.before.Undated key ∧ ¬ report.Removes key := by
  rw [same]
  constructor
  · exact fun before => .inr ⟨before, stays⟩
  · rintro (abandons | ⟨before, _⟩)
    · exact same.mp abandons.undated
    · exact before

/-- A counter without an expiry was abandoned just now, or it had none before and was left. -/
theorem undated_iff (course : report.Course key) :
    report.after.Undated key ↔ report.Abandons key ∨ report.before.Undated key ∧ ¬ report.Removes key := by
  have absent (gone : report.after.find? key = none) : ¬ report.Abandons key := fun abandons =>
    Shelf.not_undated_of_none gone abandons.undated
  cases course with
  | kept same stays => exact undated_iff_of_same (Shelf.undated_congr same) stays
  | removed removes gone => simp [Shelf.not_undated_of_none gone, absent gone, removes]
  | expired _ found dated gone =>
    have before : ¬ report.before.Undated key := Shelf.not_undated_of_dated fun entry here =>
      Option.some.inj (found.symm.trans here) ▸ dated
    simp [Shelf.not_undated_of_none gone, absent gone, before]
  | begun _ none left =>
    have after : ¬ report.after.Undated key := Shelf.not_undated_of_dated fun entry here => (left entry here).2
    have abandons : ¬ report.Abandons key := fun abandons => after abandons.undated
    simp [after, abandons, Shelf.not_undated_of_none none]
  | abandoned abandons => exact ⟨fun _ => .inl abandons, fun _ => abandons.undated⟩
  | grown stays _ found here => exact undated_iff_of_same (Shelf.undated_of_grown found here) stays

/-- A call that was refused has changed nothing, or it has abandoned the counter it began. -/
theorem kept_or_abandons (course : report.Course key) (refused : report.fault?.isSome = true) :
    report.after.find? key = report.before.find? key ∨ report.Abandons key := by
  cases course with
  | kept same _ => exact .inl same
  | abandoned abandons => exact .inr abandons
  | removed removes _ =>
    rw [removes.2] at refused
    cases refused
  | expired quiet _ _ _ | begun quiet _ _ | grown _ quiet _ _ =>
    rw [quiet] at refused
    cases refused

end Course

theorem abandoned_nil : ¬ Abandoned key [] := by
  rintro ⟨front, report, rest, split, _⟩
  cases front <;> cases split

theorem abandoned_cons {reports : List Report} : Abandoned key (report :: reports) ↔
    (report.Abandons key ∧ ∀ later ∈ reports, ¬ later.Removes key) ∨ Abandoned key reports := by
  constructor
  · rintro ⟨front, other, rest, split, abandons, left⟩
    cases front with
    | nil =>
      cases split
      exact .inl ⟨abandons, left⟩
    | cons first front =>
      cases split
      exact .inr ⟨front, other, rest, rfl, abandons, left⟩
  · rintro (⟨abandons, left⟩ | ⟨front, other, rest, rfl, abandons, left⟩)
    · exact ⟨[], report, reports, rfl, abandons, left⟩
    · exact ⟨report :: front, other, rest, rfl, abandons, left⟩

end Errand.Report

namespace Connection

variable {connection : Connection σ} {key : String} {state next : σ}

theorem increment_of_one {duration : Duration}
    (begun : connection.send (.increment key) state = (.ok (.value (.int 1)), next)) :
    connection.increment key (some duration) state =
      connection.ask "incr" (.expire key (.ofDuration duration)) (fun _ => .ok 1) next := by
  simp [increment, ask, begun, Answer.count]

/-- A counter that was begun before takes one command, whether it has an expiry or not. -/
theorem increment_of_ne_one {duration : Option Duration} {count : Int}
    (counted : connection.send (.increment key) state = (.ok (.value (.int count)), next)) (more : count ≠ 1) :
    connection.increment key duration state = (.ok count, next) := by
  have asked : connection.ask "incr" (.increment key) Answer.count state = (.ok count, next) := by
    simp [ask, counted, Answer.count]
  unfold increment
  rw [asked]
  split
  · next again => exact absurd (Except.ok.inj (Prod.mk.inj again).1) more
  · rfl

end Connection

namespace Connection.Serves

open Errand

variable {connection : Connection σ} {shelf : σ → Shelf} {wait : Duration → σ → σ} {key : String} {state : σ}

/-- The second command gives the new counter an expiry, or fails and leaves it without one. -/
theorem expire_cases (serves : connection.Serves shelf wait) (begun : (shelf state).find? key = some ⟨"1", none⟩)
    (lifetime : Lifetime) :
    let answered := connection.ask "incr" (.expire key lifetime) (fun _ => .ok (1 : Int)) state
    let after := (shelf answered.2).find? key
    (∃ fault, answered.1 = .error fault ∧ after = some ⟨"1", none⟩) ∨
      answered.1 = .ok 1 ∧ ∀ entry, after = some entry → entry.value = "1" ∧ entry.expires.isSome = true := by
  have sent := serves.send (.expire key lifetime) state
  simp only [Connection.ask]
  generalize connection.send (.expire key lifetime) state = reply at sent ⊢
  rcases reply with ⟨result, next⟩
  cases sent with
  | failed same => exact .inl ⟨_, rfl, (congrFun same key).trans begun⟩
  | idle quiet _ => simp at quiet
  | missed absent _ =>
    rw [begun] at absent
    cases absent
  | dated found here _ =>
    refine .inr ⟨rfl, fun entry left => ?_⟩
    rw [begun] at found
    cases found
    rcases here with gone | ⟨time, there⟩
    · rw [gone] at left
      cases left
    · rw [there] at left
      cases left
      exact ⟨rfl, rfl⟩

/-- What counting comes to: nothing; a counter without an expiry, and a fault; a new counter that expires; or one more
on the counter there was, which expires as before. -/
theorem increment_cases (serves : connection.Serves shelf wait) (counts : (shelf state).Counts key)
    (duration : Duration) :
    let answered := connection.increment key (some duration) state
    let before := (shelf state).find? key
    let after := (shelf answered.2).find? key
    (∃ fault, answered.1 = .error fault ∧ after = before) ∨
    (∃ fault, answered.1 = .error fault ∧ before = none ∧ after = some ⟨"1", none⟩) ∨
    (answered.1 = .ok 1 ∧ before = none ∧
      ∀ entry, after = some entry → entry.value = "1" ∧ entry.expires.isSome = true) ∨
    ∃ (count : Nat) (entry : Entry), answered.1 = .ok (count + 1) ∧ before = some entry ∧
      after = some { entry with value := toString ((count + 1 : Nat) : Int) } := by
  have first := serves.send (.increment key) state
  generalize sent : connection.send (.increment key) state = reply at first
  rcases reply with ⟨result, next⟩
  cases first with
  | @failed _ trouble same =>
    have refused : connection.increment key (some duration) state = (.error (trouble.during "incr"), next) := by
      simp [Connection.increment, Connection.ask, sent]
    rw [refused]
    exact .inl ⟨_, rfl, congrFun same key⟩
  | idle quiet _ => simp at quiet
  | begun absent here _ =>
    rw [Connection.increment_of_one sent]
    rcases serves.expire_cases here (.ofDuration duration) with ⟨fault, refused, left⟩ | ⟨answered, left⟩
    · exact .inr (.inl ⟨fault, refused, absent, left⟩)
    · exact .inr (.inr (.inl ⟨answered, absent, left⟩))
  | @grown _ entry number found written here _ =>
    obtain ⟨count, positive, same⟩ := counts entry found
    obtain rfl : number = count := Text.Numeral.eq_of_toString_eq (written.symm.trans same)
    rw [Connection.increment_of_ne_one sent (by omega)]
    exact .inr (.inr (.inr ⟨count, entry, rfl, found, here⟩))

theorem ask_others (serves : connection.Serves shelf wait) {α : Type} (command : Command)
    (apart : command.key? ≠ some key) (name : String) (meaning : Answer → Except RemoteFault α) (state : σ) :
    (shelf (connection.ask name command meaning state).2).find? key = (shelf state).find? key := by
  have kept := (serves.send command state).find?_eq apart
  unfold Connection.ask
  generalize connection.send command state = reply at kept ⊢
  rcases reply with ⟨_ | _, next⟩ <;> exact kept

theorem increment_others (serves : connection.Serves shelf wait) {other : String} (apart : some other ≠ some key)
    (duration : Duration) :
    (shelf (connection.increment other (some duration) state).2).find? key = (shelf state).find? key := by
  have counted := serves.ask_others (.increment other) apart "incr" Answer.count state
  unfold Connection.increment
  generalize connection.ask "incr" (.increment other) Answer.count state = answered at counted ⊢
  split
  · exact (serves.ask_others (.expire other _) apart _ _ _).trans counted
  · exact counted

/-- The removal of a key is answered and nothing is left under it, or it is refused and nothing has changed. -/
theorem delete_cases (serves : connection.Serves shelf wait) (key : String) (state : σ) :
    let answered := connection.delete key state
    (∃ found, answered.1 = .ok found ∧ (shelf answered.2).find? key = none) ∨
      ∃ fault, answered.1 = .error fault ∧ (shelf answered.2).find? key = (shelf state).find? key := by
  have sent := serves.send (.delete key) state
  simp only [Connection.delete, Connection.ask]
  generalize connection.send (.delete key) state = reply at sent ⊢
  rcases reply with ⟨result, next⟩
  cases sent with
  | failed same => exact .inr ⟨_, rfl, congrFun same key⟩
  | idle quiet _ => simp at quiet
  | removed here _ => exact .inl ⟨_, rfl, here⟩

theorem get_same (serves : connection.Serves shelf wait) {other : String} :
    (shelf (connection.get other state).2).find? key = (shelf state).find? key := by
  have sent := serves.send (.get other) state
  unfold Connection.get Connection.ask
  generalize connection.send (.get other) state = reply at sent ⊢
  rcases reply with ⟨result, next⟩
  cases sent with
  | failed same | idle _ same | read same => exact congrFun same key

/-- What each errand comes to under a key that holds a counter. -/
theorem course (serves : connection.Serves shelf wait) (errand : Errand) (counts : (shelf state).Counts key) :
    (errand.report connection shelf wait state).Course key := by
  cases errand with
  | increment other duration =>
    have stays := @Report.not_removes key ((Errand.increment other duration).report connection shelf wait state) nofun
    by_cases same : other = key
    · subst same
      rcases serves.increment_cases counts duration with ⟨_, _, unchanged⟩ | ⟨fault, refused, absent, left⟩ |
        ⟨answered, absent, left⟩ | ⟨count, entry, answered, found, here⟩
      · exact .kept unchanged stays
      · exact .abandoned ⟨⟨duration, rfl⟩, by simp [report, run, told, refused, raised?], absent, left⟩
      · exact .begun (congrArg raised? answered) absent left
      · exact .grown stays (congrArg raised? answered) found here
    · exact .kept (serves.increment_others (fun here => same (Option.some.inj here)) duration) stays
  | get other => exact .kept serves.get_same (Report.not_removes nofun)
  | delete other =>
    by_cases same : other = key
    · subst same
      rcases serves.delete_cases other state with ⟨_, answered, gone⟩ | ⟨fault, refused, unchanged⟩
      · exact .removed ⟨rfl, congrArg raised? answered⟩ gone
      · refine .kept unchanged ?_
        rintro ⟨_, quiet⟩
        cases quiet.symm.trans (congrArg raised? refused)
    · refine .kept (serves.ask_others (.delete other) (fun here => same (Option.some.inj here)) _ _ _) ?_
      exact Report.not_removes fun removing => same (Errand.delete.inj removing)
  | wait duration =>
    rcases serves.wait duration state key with same | ⟨entry, found, dated, gone⟩
    · exact .kept same (Report.not_removes nofun)
    · exact .expired rfl found dated gone

/-- Along a run a counter is without an expiry if it was and has not been removed, or if it was abandoned since. -/
theorem undated_runAll (serves : connection.Serves shelf wait) (errands : List Errand)
    (counts : (shelf state).Counts key) :
    (shelf (runAll connection wait errands state)).Undated key ↔
      Report.Abandoned key (reports connection shelf wait errands state) ∨
        (shelf state).Undated key ∧ ∀ report ∈ reports connection shelf wait errands state, ¬ report.Removes key := by
  induction errands generalizing state with
  | nil => simp [runAll, reports, Report.abandoned_nil]
  | cons errand rest ih =>
    have course := serves.course errand counts
    have step := course.undated_iff
    have run := ih (course.counts counts)
    have last : runAll connection wait (errand :: rest) state =
        runAll connection wait rest (errand.run connection wait state).2 := rfl
    have next : (errand.report connection shelf wait state).after = shelf (errand.run connection wait state).2 := rfl
    have start : (errand.report connection shelf wait state).before = shelf state := rfl
    rw [next, start] at step
    rw [last, run, step, reports, Report.abandoned_cons, List.forall_mem_cons, or_and_right, and_assoc, ← or_assoc,
      @or_comm (Report.Abandoned key _)]

/-- A call that is refused leaves a counter as it was, unless it abandons the counter that it began. -/
theorem refused_keeps (serves : connection.Serves shelf wait) (errands : List Errand)
    (counts : (shelf state).Counts key) :
    ∀ report ∈ reports connection shelf wait errands state, report.fault?.isSome = true →
      report.after.find? key = report.before.find? key ∨ report.Abandons key := by
  induction errands generalizing state with
  | nil => exact fun _ member => by cases member
  | cons errand rest ih =>
    have course := serves.course errand counts
    rw [reports, List.forall_mem_cons]
    exact ⟨course.kept_or_abandons, ih (course.counts counts)⟩

/-- A counter is without an expiry just when a call that began it was refused between its two commands and the counter
has not been removed since, and this is the only way in which a refused call changes a counter. -/
theorem undated_iff_abandoned (serves : connection.Serves shelf wait) (errands : List Errand)
    (absent : (shelf state).find? key = none) :
    let reports := reports connection shelf wait errands state
    ((shelf (runAll connection wait errands state)).Undated key ↔ Report.Abandoned key reports) ∧
      ∀ report ∈ reports, report.fault?.isSome = true →
        report.after.find? key = report.before.find? key ∨ report.Abandons key := by
  intro reports
  refine ⟨?_, serves.refused_keeps errands (Shelf.counts_of_none absent)⟩
  rw [serves.undated_runAll errands (Shelf.counts_of_none absent)]
  simp [Shelf.not_undated_of_none absent, reports]

/-- The connection is lost once a counter has begun; the counter is removed later, and begun anew. -/
theorem undated_iff_abandoned_lost :
    let server : Server := ⟨.empty, 0, [none, some ⟨.connection, "lost"⟩, none, some ⟨.timeout, "late"⟩]⟩
    let errands : List Errand := [.increment "key" Duration.day, .increment "key" Duration.day, .get "key",
      .wait Duration.day, .increment "other" Duration.day, .delete "key", .increment "key" Duration.day]
    let reports := reports Server.connection Server.shelf Server.wait errands server
    server.shelf.find? "key" = none ∧
      (((runAll Server.connection Server.wait errands server).shelf.Undated "key" ↔ Report.Abandoned "key" reports) ∧
        ∀ report ∈ reports, report.fault?.isSome = true →
          report.after.find? "key" = report.before.find? "key" ∨ report.Abandons "key") := by
  intro server errands reports
  have absent : server.shelf.find? "key" = none := rfl
  exact ⟨absent, Server.serves.undated_iff_abandoned errands absent⟩

/-- A call that raises has counted all the same, and the next one that succeeds gives the counter no expiry either. -/
theorem undated_after_lost_expiry :
    let server : Server := ⟨.empty, 0, [none, some ⟨.connection, "lost"⟩]⟩
    let refused := Server.connection.increment "attempts:m" (some (7 * Duration.day)) server
    let again := Server.connection.increment "attempts:m" (some (7 * Duration.day)) refused.2
    server.shelf.find? "attempts:m" = none ∧
      refused.1 = .error (.unavailable "redis incr failed") ∧
      refused.2.shelf.find? "attempts:m" = some ⟨"1", none⟩ ∧
      again.1 = .ok 2 ∧ again.2.shelf.find? "attempts:m" = some ⟨"2", none⟩ := by
  intro server refused again
  exact ⟨rfl, rfl, rfl, rfl, rfl⟩

end Connection.Serves
end ReadOnce.Store
