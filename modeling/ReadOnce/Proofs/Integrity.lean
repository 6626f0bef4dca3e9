import ReadOnce.Proofs.Handler
import ReadOnce.Proofs.Numeral
import ReadOnce.Proofs.Sequence
import ReadOnce.Proofs.Store.Agreement
import ReadOnce.Proofs.Store.Interruption

/-!
What may lie in a store. An entry is an envelope under a canonical id or a written count under an id that was
presented, and it expires in either case. A store that was empty holds nothing else, whatever is asked of the service,
whichever calls to the store fail, and in whatever order the calls of several callers follow each other.
-/
namespace ReadOnce

open Message Store

/-- An envelope as it is stored where a limited number of bytes may be locked up: an initial block, and blocks enough
for the text and its padding. -/
def Envelope.Framed (limit : Int) (value : String) : Prop :=
  ∃ (raw : Bytes) (blocks : Nat), value = Base64.encode raw ∧ raw.length = 16 + 16 * blocks ∧ 1 ≤ blocks ∧
    (blocks : Int) ≤ limit / 16 + 1

/-- An id that passes the check together with some key. -/
def Message.Presented (id : String) : Prop := ∃ keyText key, keyOf id keyText = .ok key

namespace Store

/-- What may lie under a key. -/
inductive Fit (limit : Int) : String → Entry → Prop where
  | message {id value : String} {time : Instant} (canonical : Id.Canonical id) (framed : Envelope.Framed limit value) :
      Fit limit (Key.message id) ⟨value, some time⟩
  | attempts {id : String} {count : Nat} {time : Instant} (presented : Presented id) (positive : 1 ≤ count)
      (writable : count < Text.numeralLimit) : Fit limit (Key.attempts id) ⟨toString (count : Int), some time⟩

theorem Fit.dated {limit : Int} {key : String} {entry : Entry} (fit : Fit limit key entry) :
    entry.expires.isSome = true := by
  cases fit with
  | message | attempts => rfl

/-- A counter is a number that can be read. -/
theorem Fit.of_attempts {limit : Int} {id : String} {entry : Entry} (fit : Fit limit (Key.attempts id) entry) :
    ∃ (count : Nat) (time : Instant), 1 ≤ count ∧ count < Text.numeralLimit ∧
      entry = ⟨toString (count : Int), some time⟩ := by
  generalize same : Key.attempts id = key at fit
  cases fit with
  | message => exact absurd same.symm (Key.message_ne_attempts _ _)
  | attempts presented positive writable => exact ⟨_, _, positive, writable, rfl⟩

/-- All that is held may lie where it lies. -/
def Intact (limit : Int) (shelf : Shelf) : Prop := ∀ key entry, shelf.find? key = some entry → Fit limit key entry

namespace Intact

variable {limit : Int} {now : Instant} {key id : String} {before after : Shelf}

theorem empty (limit : Int) : Intact limit .empty := nofun

theorem mono (intact : Intact limit before)
    (within : ∀ key entry, after.find? key = some entry → before.find? key = some entry) : Intact limit after :=
  fun other entry found => intact other entry (within other entry found)

theorem written {entry : Entry} (intact : Intact limit before) (others : SameBut key before after)
    (here : after.find? key = some entry) (fit : Fit limit key entry) : Intact limit after := by
  intro other found there
  by_cases same : other = key
  · subst same
    rw [here] at there
    cases there
    exact fit
  · exact intact other found (others other same ▸ there)

theorem removed (intact : Intact limit before) (others : SameBut key before after)
    (gone : after.find? key = none) : Intact limit after :=
  intact.mono fun _ _ => others.found gone

theorem tidied (intact : Intact limit before) (tidied : Tidied now key before after) : Intact limit after :=
  intact.mono fun _ _ found => tidied.found found

theorem counted {duration : Duration} {answer : Int} (intact : Intact limit before) (presented : Presented id)
    (effect : Effect now before after (.increment (Key.attempts id) (some duration) (.ok answer))) :
    Intact limit after := by
  rcases effect.of_increment with ⟨_, _, expires, due, here⟩ | ⟨entry, value, live, next, here⟩
  · rw [counterExpiry_eq due] at here
    exact intact.written effect.others here (.attempts presented (Nat.le_refl 1) Text.Numeral.one_lt_numeralLimit)
  · obtain ⟨count, time, positive, writable, rfl⟩ := (intact _ _ (Shelf.live?_eq_some.mp live).1).of_attempts
    obtain ⟨_, rfl, room⟩ := nextCount_toString_ok writable next
    exact intact.written effect.others here (.attempts presented (Nat.le_succ_of_le positive) room)

end Intact

/-- Removes what has expired from a table; the store within the process does so as it goes. -/
def Backend.purge (now : Instant) : Backend → Except StoreFault Nat × Backend :=
  call (fun store => (.ok 0, store)) (Table.purge now)

theorem Backend.found_of_purge {store : Backend} {now : Instant} {key : String} {entry : Entry}
    (found : (store.purge now).2.shelf.find? key = some entry) : store.shelf.find? key = some entry := by
  cases store with
  | memory store => exact found
  | table rows =>
    simp only [Backend.purge, Backend.call_table, Table.purge, Table.within] at found
    cases reach : rows.reach with
    | tableMissing | unreachable =>
      rw [reach] at found
      exact found
    | ready =>
      rw [reach] at found
      exact (Shelf.live?_eq_some.mp (Shelf.mem_live.mp (Shelf.mem_entries.mpr found))).1

end Store

namespace Message

variable {ρ σ : Type} {limit : Int}

/-- What an operation is about to store may be stored. -/
def Operation.Sound (limit : Int) : Operation → Prop
  | .creation _ (.storing id envelope _) => Id.Canonical id ∧ Envelope.Framed limit envelope
  | .creation _ (.ended _) => True
  | .retrieval _ _ _ (.ended _) => True
  | .retrieval _ id _ _ => Presented id

/-- What is locked up of a text that is not too long. -/
theorem Creation.Drawn.framed {text id envelope : String} {key : Bytes} (drawn : Drawn text id envelope key)
    (short : ((Bytes.ofText text).length : Int) ≤ limit) : Envelope.Framed limit envelope := by
  obtain ⟨schedule, initial, _, full, rfl⟩ := drawn.locked
  refine ⟨_, (Bytes.ofText text).length / 16 + 1, rfl, ?_, ?_, ?_⟩
  · rw [List.length_append, full, Cipher.length_encryptText]
  · exact Nat.le_add_left 1 _
  · omega

theorem Operation.create_sound {service : Service} (source : RandomSource ρ) (dice : ρ) (text : String)
    (within : service.maxSize ≤ limit) : (Operation.create service source dice text).Sound limit := by
  unfold create
  cases begun : (Creation.start service source text dice).result with
  | ended result => trivial
  | storing id envelope key =>
    obtain ⟨fine, drawn⟩ := Creation.start_storing begun
    have forms := Creation.draw_forms drawn
    exact ⟨forms.canonical, forms.framed (Int.le_trans (bytes_of_textFault? fine).2 within)⟩

theorem Operation.retrieve_sound (service : Service) (id key : String) :
    (Operation.retrieve service id key).Sound limit := by
  unfold retrieve
  cases accepted : keyOf id key with
  | error fault => trivial
  | ok bytes => exact ⟨key, bytes, accepted⟩

/-- A call of a sound operation keeps what is held intact, and the operation goes on being sound. -/
theorem Moves.intact {now : Instant} {operation next : Operation} {exchange : Exchange} {before after : Shelf}
    (moves : Moves operation next exchange) (effect : Effect now before after exchange)
    (sound : operation.Sound limit) (intact : Intact limit before) : next.Sound limit ∧ Intact limit after := by
  cases moves with
  | stored service id envelope key =>
    obtain ⟨canonical, framed⟩ := sound
    obtain ⟨time, _, here, others⟩ := effect.of_put
    exact ⟨trivial, intact.written others here (.message canonical framed)⟩
  | unstored => exact ⟨trivial, intact.tidied (effect.of_fault rfl)⟩
  | counted service id key attempt =>
    -- the count is kept under the id that was presented with the key
    refine ⟨?_, intact.counted sound effect⟩
    split <;> exact sound
  | fetched service id key attempt envelope =>
    refine ⟨?_, intact.tidied effect.of_get.2⟩
    cases envelope with
    | none => trivial
    | some envelope =>
      simp only [Retrieval.examine]
      cases Retrieval.reveal? envelope key with
      | none => trivial
      | some text => exact sound
  | discarded | lost | cleared =>
    obtain ⟨_, gone, others⟩ := effect.of_delete
    exact ⟨trivial, intact.removed others gone⟩
  | won =>
    obtain ⟨_, gone, others⟩ := effect.of_delete
    exact ⟨sound, intact.removed others gone⟩
  | broken service id key stage fault failed =>
    exact ⟨trivial, intact.tidied (effect.of_fault (by rw [failed]; rfl))⟩

theorem Operation.step_intact {store : KeyValueStore σ} {shelf : σ → Shelf} (lawful : store.Lawful shelf)
    {now : Instant} {operation : Operation} {state : σ} (sound : operation.Sound limit)
    (intact : Intact limit (shelf state)) :
    (operation.step store now state).1.Sound limit ∧ Intact limit (shelf (operation.step store now state).2) := by
  rcases operation.step_moves lawful now state with ended | ⟨exchange, moves, effect⟩
  · rw [ended]
    exact ⟨sound, intact⟩
  · exact moves.intact effect sound intact

/-- Nothing unfit is held, and no caller is about to store it. -/
structure Traffic.Sound (limit : Int) (shelf : σ → Shelf) (traffic : Traffic σ) : Prop where
  operations : ∀ operation ∈ traffic.operations, operation.Sound limit
  held : Intact limit (shelf traffic.store.store)

/-- A turn that creates a message is one of a service that keeps to the limit. -/
def Turn.Within (limit : Int) : Turn ρ → Prop
  | .create service _ _ _ => service.maxSize ≤ limit
  | _ => True

theorem Turn.begins_sound {turn : Turn ρ} {operation : Operation} (within : turn.Within limit)
    (asked : turn.begins? = some operation) : operation.Sound limit := by
  cases turn with
  | create service source dice text =>
    cases asked
    exact Operation.create_sound source dice text within
  | retrieve service id key =>
    cases asked
    exact Operation.retrieve_sound service id key
  | call caller failure => cases asked

theorem Traffic.Change.sound {shelf : σ → Shelf} {event : Event ρ} {before after : Traffic σ}
    (change : Change shelf event before after) (within : event.turn.Within limit)
    (sound : before.Sound limit shelf) : after.Sound limit shelf := by
  cases change with
  | idle => exact sound
  | begun operation asked =>
    refine ⟨fun other inside => ?_, sound.held⟩
    rcases List.mem_append.mp inside with old | new
    · exact sound.operations other old
    · exact List.mem_singleton.mp new ▸ Turn.begins_sound within asked
  | called caller operation next store turn made =>
    obtain ⟨exchange, moves, effect, _⟩ := made
    obtain ⟨later, held⟩ := moves.intact effect (sound.operations operation (List.mem_of_getElem? turn)) sound.held
    refine ⟨fun other inside => ?_, held⟩
    rcases List.mem_or_eq_of_mem_set inside with old | rfl
    · exact sound.operations other old
    · exact later

theorem Traffic.Sound.run {store : KeyValueStore σ} {shelf : σ → Shelf} {traffic : Traffic σ}
    (sound : traffic.Sound limit shelf) (lawful : store.Lawful shelf) (events : List (Event ρ))
    (within : ∀ event ∈ events, event.turn.Within limit) : (traffic.run store events).Sound limit shelf :=
  run_induction lawful events traffic sound fun _ _ event member sound change =>
    change.sound (within event member) sound

section Whole

variable {service : Service} {source : RandomSource ρ} {store : KeyValueStore σ} {shelf : σ → Shelf} {now : Instant}

theorem Service.create_intact (lawful : store.Lawful shelf) (text : String) {world : ρ × σ}
    (intact : Intact service.maxSize (shelf world.2)) :
    Intact service.maxSize (shelf (service.create source store now text world).state.2) :=
  (Operation.step_intact lawful (Operation.create_sound source world.1 text (Int.le_refl _)) intact).2

theorem Service.retrieve_intact (lawful : store.Lawful shelf) (id key : String) {state : σ}
    (intact : Intact limit (shelf state)) :
    Intact limit (shelf (service.retrieve store now id key state).state) := by
  unfold retrieve
  cases accepted : keyOf id key with
  | error fault => exact intact
  | ok bytes =>
    have kept := @Retrieval.steps_induction σ service store id bytes now
      (fun stage later => (Operation.retrieval service id bytes stage).Sound limit ∧ Intact limit (shelf later))
      (fun stage later ⟨sound, intact⟩ => Operation.step_intact lawful sound intact)
      Retrieval.counting.remaining .counting state ⟨⟨key, bytes, accepted⟩, intact⟩
    exact kept.2

end Whole

/-- What is done with a service or its store, each in one go. -/
inductive Deed where
  | create (text : String)
  | retrieve (id key : String)
  | request (subject : Broker.Subject) (body : Bytes)
  | purge

/-- Something that is done, when, and with which of its calls to the store failing on the way. -/
structure Occasion where
  now : Instant
  plan : List (Option String)
  deed : Deed

namespace Service

variable {ρ : Type} (service : Service) (source : RandomSource ρ)

/-- What becomes of the random source and of the store. -/
def perform (occasion : Occasion) (world : ρ × Backend) : ρ × Backend :=
  let store := Interrupted.interface Backend.interface
  let now := occasion.now
  let before : ρ × Interrupted Backend := (world.1, ⟨world.2, occasion.plan⟩)
  let after := match occasion.deed with
    | .create text => (service.create source store now text before).state
    | .retrieve id key => (before.1, (service.retrieve store now id key before.2).state)
    | .request subject body => (Broker.Handler.answer subject service source store now body before).state
    | .purge => (before.1, (Interrupted.attempt (Backend.purge now) before.2).2)
  (after.1, after.2.store)

def performAll (occasions : List Occasion) (world : ρ × Backend) : ρ × Backend :=
  occasions.foldl (fun world occasion => service.perform source occasion world) world

variable {service source}

private theorem request_cases (subject : Broker.Subject) (now : Instant) (body : Bytes)
    (before : ρ × Interrupted Backend) :
    let store := Interrupted.interface Backend.interface
    let shelf := (Broker.Handler.answer subject service source store now body before).state.2.store.shelf
    shelf = before.2.store.shelf ∨
      (∃ text, shelf = (service.create source store now text before).state.2.store.shelf) ∨
      ∃ id key, shelf = (service.retrieve store now id key before.2).state.store.shelf := by
  intro store shelf
  cases subject with
  | save =>
    rcases Broker.Handler.save_cases service source store now body before with ⟨_, _, same⟩ | ⟨text, _, same, _⟩
    · left
      simp only [shelf, Broker.Handler.answer]
      rw [same]
    · refine .inr (.inl ⟨text, ?_⟩)
      simp only [shelf, Broker.Handler.answer]
      rw [same]
  | receive =>
    rcases Broker.Handler.receive_cases service store now body before.2 with ⟨_, _, same⟩ | ⟨identifier, _, same⟩
    · left
      simp only [shelf, Broker.Handler.answer]
      rw [same]
    · refine .inr (.inr ⟨identifier.messageId, identifier.aesKey, ?_⟩)
      simp only [shelf, Broker.Handler.answer]
      rw [same]

/-- Whatever is done, it comes to nothing, to a purge, or to one creation or retrieval, as far as the store goes. -/
theorem perform_cases (occasion : Occasion) (world : ρ × Backend) :
    let store := Interrupted.interface Backend.interface
    let before : Interrupted Backend := ⟨world.2, occasion.plan⟩
    let shelf := (service.perform source occasion world).2.shelf
    shelf = world.2.shelf ∨ shelf = (world.2.purge occasion.now).2.shelf ∨
      (∃ text, shelf = (service.create source store occasion.now text (world.1, before)).state.2.store.shelf) ∨
      ∃ id key, shelf = (service.retrieve store occasion.now id key before).state.store.shelf := by
  obtain ⟨now, plan, deed⟩ := occasion
  intro store before shelf
  cases deed with
  | create text => exact .inr (.inr (.inl ⟨text, rfl⟩))
  | retrieve id key => exact .inr (.inr (.inr ⟨id, key, rfl⟩))
  | request subject body =>
    rcases @request_cases ρ service source subject now body (world.1, before) with
      same | ⟨text, same⟩ | ⟨id, key, same⟩
    · exact .inl same
    · exact .inr (.inr (.inl ⟨text, same⟩))
    · exact .inr (.inr (.inr ⟨id, key, same⟩))
  | purge =>
    rcases Interrupted.attempt_cases (Backend.purge now) before with ⟨_, _, failed⟩ | ⟨_, made⟩
    · left
      simp only [shelf, perform]
      rw [failed]
    · right
      left
      simp only [shelf, perform]
      rw [made]

theorem perform_intact (occasion : Occasion) {world : ρ × Backend} (intact : Intact service.maxSize world.2.shelf) :
    Intact service.maxSize (service.perform source occasion world).2.shelf := by
  have lawful := Interrupted.lawful Backend.lawful
  rcases @perform_cases ρ service source occasion world with same | same | ⟨text, same⟩ | ⟨id, key, same⟩
  · rwa [same]
  · rw [same]
    exact intact.mono fun _ _ => Backend.found_of_purge
  · rw [same]
    exact create_intact lawful text intact
  · rw [same]
    exact retrieve_intact lawful id key intact

theorem run_intact (occasions : List Occasion) {world : ρ × Backend} (intact : Intact service.maxSize world.2.shelf) :
    Intact service.maxSize (service.performAll source occasions world).2.shelf := by
  induction occasions generalizing world with
  | nil => exact intact
  | cons occasion rest ih => exact ih (perform_intact occasion intact)

/-- Whatever is done with an empty store, and whichever calls fail on the way: every entry is an envelope of bounded
size under a canonical id or a written count under an id that was presented, it has a time to expire, and every count
can be read. -/
theorem performAll_intact (service : Service) (source : RandomSource ρ) (dice : ρ) (store : Backend)
    (empty : store.shelf = .empty) (occasions : List Occasion) :
    let shelf := (service.performAll source occasions (dice, store)).2.shelf
    Intact service.maxSize shelf ∧
      (∀ key entry, shelf.find? key = some entry → entry.expires.isSome = true) ∧
      ∀ id entry, shelf.find? (Key.attempts id) = some entry →
        ∃ count : Nat, 1 ≤ count ∧ Text.Numeral.parse entry.value = .ok count := by
  intro shelf
  have intact : Intact service.maxSize shelf := run_intact occasions (empty ▸ Intact.empty _)
  refine ⟨intact, fun key entry found => (intact key entry found).dated, fun id entry found => ?_⟩
  obtain ⟨count, time, positive, writable, rfl⟩ := (intact _ entry found).of_attempts
  exact ⟨count, positive, Text.Numeral.parse_toString writable⟩

/-- A text that could not be stored and one that was, and attempts at ids of no message: what is left after a purge is
the envelope and the count of the later attempt. -/
theorem performAll_intact_table :
    let service : Service := ⟨Duration.day, 3, 100⟩
    let source : RandomSource Nat :=
      ⟨fun length count => (.bytes (List.replicate length (UInt8.ofNat count)), count + 1)⟩
    let store : Backend := .table ⟨.empty, .ready, 1⟩
    let key := Base64.encode (List.replicate 32 1)
    let occasions : List Occasion :=
      [⟨0, [some "lost"], .create "text"⟩, ⟨0, [], .retrieve "early" key⟩, ⟨1, [], .request .save [0x74]⟩,
        ⟨Duration.day, [], .retrieve "late" key⟩, ⟨Duration.day, [some "lost"], .purge⟩, ⟨Duration.day, [], .purge⟩]
    let shelf := (service.performAll source occasions (0, store)).2.shelf
    store.shelf = .empty ∧
      shelf.entries.map Prod.fst = [Key.attempts "late", Key.message (Id.ofBytes (List.replicate 16 3))] ∧
      Intact service.maxSize shelf ∧
      (∀ key entry, shelf.find? key = some entry → entry.expires.isSome = true) ∧
      ∀ id entry, shelf.find? (Key.attempts id) = some entry →
        ∃ count : Nat, 1 ≤ count ∧ Text.Numeral.parse entry.value = .ok count := by
  intro service source store key occasions shelf
  refine ⟨rfl, ?_, performAll_intact service source 0 store rfl occasions⟩
  decide +kernel

end Service
end Message
end ReadOnce
