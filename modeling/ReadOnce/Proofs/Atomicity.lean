import ReadOnce.Proofs.Creation
import ReadOnce.Proofs.Unlocking

/-!
A creation is done as a whole or not at all. It draws three times and then stores once: whatever goes wrong on the way,
the store is what it was, and what succeeds has changed one entry, made of what was drawn.
-/
namespace ReadOnce

variable {ρ σ : Type}

theorem RandomSource.bytes_eq_ok_iff {source : RandomSource ρ} {length : Nat} {dice next : ρ} {value : Bytes} :
    source.bytes length dice = (.ok value, next) ↔
      source.draw length dice = (.bytes value, next) ∧ value.length = length := by
  unfold RandomSource.bytes
  split
  · next drawn later answer =>
    rw [answer]
    by_cases full : drawn.length = length
    · simp only [if_pos full, Prod.mk.injEq, Except.ok.injEq, Draw.bytes.injEq]
      constructor
      · rintro ⟨rfl, rfl⟩
        exact ⟨⟨rfl, rfl⟩, full⟩
      · exact And.left
    · simp only [if_neg full, Prod.mk.injEq, reduceCtorEq, false_and, Draw.bytes.injEq, false_iff]
      rintro ⟨⟨rfl, _⟩, same⟩
      exact full same
  · next answer => simp [answer]
  · next answer => simp [answer]

namespace Message

open Store

namespace Creation

/-- Three draws in a row, answered in full: for an id, for a key, and for an initial block. -/
structure Threefold (source : RandomSource ρ) (dice : ρ) (id key initial : Bytes) (last : ρ) : Prop where
  drawn : ∃ second third, source.draw 16 dice = (.bytes id, second) ∧ source.draw 32 second = (.bytes key, third) ∧
    source.draw 16 third = (.bytes initial, last)
  sized : id.length = 16 ∧ key.length = 32 ∧ initial.length = 16

/-- Locking up depends on the source by the initial block that is drawn, and by nothing else. -/
theorem lock_of_bytes {source : RandomSource ρ} {dice next : ρ} {text key initial : Bytes}
    (answer : source.bytes Envelope.initialLength dice = (.ok initial, next)) :
    Envelope.lock source text key dice = ((Envelope.lock (.fixed initial) text key ()).1, next) := by
  have fixed : (RandomSource.fixed initial).bytes Envelope.initialLength () = (.ok initial, ()) :=
    RandomSource.bytes_eq_ok_iff.mpr ⟨rfl, RandomSource.length_bytes answer⟩
  simp only [Envelope.lock, answer, fixed]
  cases Cipher.Schedule.ofKey key <;> rfl

theorem lock_eq_ok_iff {source : RandomSource ρ} {dice last : ρ} {text key : Bytes} {envelope : String} :
    Envelope.lock source text key dice = (.ok envelope, last) ↔
      ∃ initial, (source.draw 16 dice = (.bytes initial, last) ∧ initial.length = 16) ∧
        (Envelope.lock (.fixed initial) text key ()).1 = .ok envelope := by
  constructor
  · intro locked
    rcases answer : source.bytes Envelope.initialLength dice with ⟨fault | initial, next⟩
    · simp only [Envelope.lock, answer] at locked
      cases locked
    · rw [lock_of_bytes answer, Prod.mk.injEq] at locked
      obtain ⟨sealing, rfl⟩ := locked
      exact ⟨initial, RandomSource.bytes_eq_ok_iff.mp answer, sealing⟩
  · rintro ⟨initial, full, sealing⟩
    rw [lock_of_bytes (RandomSource.bytes_eq_ok_iff.mpr full), sealing]

theorem draw_eq_ok_iff {source : RandomSource ρ} {text id envelope : String} {key : Bytes} {dice last : ρ} :
    draw source text dice = (.ok (id, envelope, key), last) ↔
      ∃ bytes initial, Threefold source dice bytes key initial last ∧ id = Id.ofBytes bytes ∧
        (Envelope.lock (.fixed initial) (Bytes.ofText text) key ()).1 = .ok envelope := by
  constructor
  · intro drawn
    unfold draw at drawn
    split at drawn
    · cases drawn
    next bytes second first =>
    split at drawn
    · cases drawn
    next secret third rolled =>
    split at drawn
    · cases drawn
    next made final locked =>
    cases drawn
    obtain ⟨idDrawn, idSize⟩ := RandomSource.bytes_eq_ok_iff.mp first
    obtain ⟨keyDrawn, keySize⟩ := RandomSource.bytes_eq_ok_iff.mp rolled
    obtain ⟨initial, ⟨blockDrawn, blockSize⟩, sealing⟩ := lock_eq_ok_iff.mp locked
    exact ⟨bytes, initial, ⟨⟨second, third, idDrawn, keyDrawn, blockDrawn⟩, idSize, keySize, blockSize⟩, rfl, sealing⟩
  · rintro ⟨bytes, initial, ⟨⟨second, third, idDrawn, keyDrawn, blockDrawn⟩, idSize, keySize, blockSize⟩, rfl, sealing⟩
    have first : source.bytes Id.length dice = (.ok bytes, second) :=
      RandomSource.bytes_eq_ok_iff.mpr ⟨idDrawn, idSize⟩
    have rolled : source.bytes Envelope.keyLength second = (.ok key, third) :=
      RandomSource.bytes_eq_ok_iff.mpr ⟨keyDrawn, keySize⟩
    have locked := lock_eq_ok_iff.mpr ⟨initial, ⟨blockDrawn, blockSize⟩, sealing⟩
    simp only [draw, first, rolled, locked]

theorem state_start {service : Service} {source : RandomSource ρ} {text : String} {dice : ρ}
    (fine : textFault? service.maxSize text = none) :
    (start service source text dice).state = (draw source text dice).2 := by
  unfold start
  rw [fine]
  dsimp only
  split <;> next drawn => rw [drawn]

end Creation

end Message

namespace Store

/-- A store whose next attempts to put something in it are refused, if there is a fault to refuse them for. -/
def KeyValueStore.refusing (store : KeyValueStore σ) (fault? : Option StoreFault) : KeyValueStore σ :=
  { store with
    put := fun now key value duration state =>
      match fault? with
      | some fault => (.error fault, state)
      | none => store.put now key value duration state }

theorem KeyValueStore.refusing_lawful {store : KeyValueStore σ} {shelf : σ → Shelf} (lawful : store.Lawful shelf)
    (fault? : Option StoreFault) : (store.refusing fault?).Lawful shelf where
  put now key value duration state := by
    cases fault? with
    | none => exact lawful.put now key value duration state
    | some fault => exact .refused rfl (.refl now key _)
  get := lawful.get
  delete := lawful.delete
  increment := lawful.increment

/-- A value that is not put into a store leaves all of it as it was. -/
def KeyValueStore.PutsWhole (store : KeyValueStore σ) : Prop :=
  ∀ now key value duration state fault, (store.put now key value duration state).1 = .error fault →
    (store.put now key value duration state).2 = state

theorem KeyValueStore.PutsWhole.refusing {store : KeyValueStore σ} (whole : store.PutsWhole)
    (fault? : Option StoreFault) : (store.refusing fault?).PutsWhole := by
  intro now key value duration state fault failed
  cases fault? with
  | none => exact whole now key value duration state fault failed
  | some _ => rfl

theorem Backend.putsWhole : Backend.interface.PutsWhole := by
  intro now key value duration state fault failed
  cases state with
  | memory store =>
    simp only [interface, call_memory, Memory.put] at failed ⊢
    cases due : expiry now duration with
    | error fault => rfl
    | ok time =>
      rw [due] at failed
      cases failed
  | table rows =>
    simp only [interface, call_table, Table.put] at failed ⊢
    cases due : expiry now duration with
    | error fault => rfl
    | ok time =>
      rw [due] at failed
      dsimp only [Table.within] at failed ⊢
      cases reach : rows.reach with
      | ready =>
        rw [reach] at failed
        cases failed
      | tableMissing | unreachable => rfl

end Store

namespace Message

open Store

variable {service : Service} {source : RandomSource ρ} {store : KeyValueStore σ} {now : Instant} {text : String}
  {world : ρ × σ}

/-- What does not create a message leaves the store as it was. -/
theorem Service.create_unchanged (whole : store.PutsWhole)
    (failed : ∀ identifier, (service.create source store now text world).result ≠ .ok (.success identifier)) :
    (service.create source store now text world).state.2 = world.2 := by
  simp only [create] at failed ⊢
  cases begun : (Creation.start service source text world.1).result with
  | ended result => rfl
  | storing id envelope key =>
    have kept := whole now (Key.message id) envelope service.retention world.2
    rw [begun] at failed
    simp only [Creation.step] at failed ⊢
    generalize store.put now (Key.message id) envelope service.retention world.2 = answer at kept failed ⊢
    rcases answer with ⟨fault | done, next⟩
    · exact kept fault rfl
    · exact absurd rfl (failed _)

/-- Whatever the random source answers and whether or not the store takes the envelope: where no message is created,
the store is what it was; where one is, a single entry was made of three draws, and its id and its key pass when they
are presented. -/
theorem Service.create_whole (service : Service) (source : RandomSource ρ) (fault? : Option StoreFault) (now : Instant)
    (text : String) (dice : ρ) (store : Backend) :
    let run := service.create source (Backend.interface.refusing fault?) now text (dice, store)
    ((∀ identifier, run.result ≠ .ok (.success identifier)) → run.state.2 = store) ∧
    ∀ identifier, run.result = .ok (.success identifier) →
      ∃ (id key initial : Bytes) (envelope : String),
        Creation.Threefold source dice id key initial run.state.1 ∧
        identifier.messageId = Id.ofBytes id ∧ Base64.decode? identifier.aesKey = some key ∧
        keyOf identifier.messageId identifier.aesKey = .ok key ∧
        (Envelope.lock (.fixed initial) (Bytes.ofText text) key ()).1 = .ok envelope ∧
        ∀ other, run.state.2.shelf.find? other =
          if other = Key.message identifier.messageId then some ⟨envelope, some (now + service.retention)⟩
          else store.shelf.find? other := by
  intro run
  refine ⟨Service.create_unchanged (Backend.putsWhole.refusing fault?), fun identifier created => ?_⟩
  obtain ⟨envelope, key, drawn, written, here, others⟩ :=
    Service.create_deposits (KeyValueStore.refusing_lawful Backend.lawful fault?) created
  have forms := Creation.draw_forms drawn
  have issued : identifier.Issued key := ⟨forms.canonical, written, forms.sized⟩
  have state : run.state.1 = (Creation.draw source text dice).2 :=
    Creation.state_start (Service.textFault?_of_create created)
  have whole : Creation.draw source text dice = (.ok (identifier.messageId, envelope, key), run.state.1) :=
    Prod.ext drawn state.symm
  obtain ⟨id, initial, threefold, named, sealing⟩ := Creation.draw_eq_ok_iff.mp whole
  refine ⟨id, key, initial, envelope, threefold, named, ?_, issued.accepted, sealing, fun other => ?_⟩
  · rw [written, Base64.decode?_encode]
  · split
    · next same => exact same ▸ here
    · next apart => exact others other apart

/-- A source that counts its calls and is short of bytes at every fifth of them. -/
private def fickle : RandomSource Nat :=
  ⟨fun length calls =>
    (.bytes (List.replicate (if calls % 5 = 4 then length - 1 else length) (UInt8.ofNat calls)), calls + 1)⟩

/-- Of two creations the first puts its entry into an empty store, and the second gets no initial block. -/
theorem Service.create_whole_fickle :
    let service : Service := ⟨Duration.day, 3, 64⟩
    let first := service.create fickle (Backend.interface.refusing none) 0 "hello" (0, .memory .empty)
    let second := service.create fickle (Backend.interface.refusing none) 0 "hello" (2, first.state.2)
    (∃ identifier, first.result = .ok (.success identifier) ∧
      (first.state.2.shelf.find? (Key.message identifier.messageId)).isSome = true) ∧
    second.result = .ok (.failure .randomFailure "") ∧ second.state.2 = first.state.2 := by
  intro service first second
  have created : first.result =
      .ok (.success ⟨Id.ofBytes (List.replicate 16 0), Base64.encode (List.replicate 32 1)⟩) := rfl
  refine ⟨⟨_, created, ?_⟩, rfl, ?_⟩
  · obtain ⟨_, _, _, _, _, _, _, _, _, found⟩ :=
      (service.create_whole fickle none 0 "hello" 0 (.memory .empty)).2 _ created
    rw [found, if_pos rfl]
    rfl
  · exact (service.create_whole fickle none 0 "hello" 2 first.state.2).1 fun _ created => by cases created

end Message
end ReadOnce
