import ReadOnce.Proofs.Atomicity
import ReadOnce.Proofs.Handler
import ReadOnce.Proofs.Presentation
import ReadOnce.Proofs.Store.Steady

/-!
Which requests to save are granted: just those whose body is the UTF-8 form of a text that is neither blank nor too
long. What is stored for them opens to the body byte for byte, and the rest leave no trace.
-/
namespace ReadOnce

open Message Store

variable {ρ σ : Type}

/-- A source that answers each call with as many bytes as it is asked for. -/
def RandomSource.Working (source : RandomSource ρ) : Prop :=
  ∀ length dice, ∃ value, (source.draw length dice).1 = .bytes value ∧ value.length = length

theorem RandomSource.Working.exists_draw {source : RandomSource ρ} (random : source.Working)
    (length : Nat) (dice : ρ) :
    ∃ value next, source.draw length dice = (.bytes value, next) ∧ value.length = length := by
  obtain ⟨value, drawn, full⟩ := random length dice
  exact ⟨value, _, Prod.ext drawn rfl, full⟩

theorem RandomSource.Working.draw {source : RandomSource ρ} (random : source.Working) (text : String) (dice : ρ) :
    ∃ id envelope key, (Creation.draw source text dice).1 = .ok (id, envelope, key) := by
  obtain ⟨id, second, idDrawn, idSize⟩ := random.exists_draw 16 dice
  obtain ⟨key, third, keyDrawn, keySize⟩ := random.exists_draw 32 second
  obtain ⟨initial, last, blockDrawn, blockSize⟩ := random.exists_draw 16 third
  obtain ⟨schedule, scheduled⟩ := Envelope.exists_schedule keySize
  have fixed : (RandomSource.fixed initial).bytes 16 () = (.ok initial, ()) :=
    RandomSource.bytes_eq_ok_iff.mpr ⟨rfl, blockSize⟩
  have sealing := congrArg Prod.fst (Envelope.lock_eq (Bytes.ofText text) fixed scheduled)
  have drawn := Creation.draw_eq_ok_iff.mpr
    ⟨id, initial, ⟨⟨second, third, idDrawn, keyDrawn, blockDrawn⟩, idSize, keySize, blockSize⟩, rfl, sealing⟩
  exact ⟨_, _, _, congrArg Prod.fst drawn⟩

namespace Broker.Handler

/-- A body that may be stored: well-formed UTF-8 of some characters that are not all blank, and not too many bytes. -/
structure Storable (limit : Int) (body : Bytes) : Prop where
  given : body ≠ []
  short : (body.length : Int) ≤ limit
  written : ∃ chars : List Char, body = chars.flatMap String.utf8EncodeChar ∧
    ∃ char ∈ chars, Text.isBlankChar char = false

variable {service : Service} {source : RandomSource ρ} {store : KeyValueStore σ} {shelf : σ → Shelf}
  {sound : σ → Prop} {now : Instant} {body : Bytes} {world : ρ × σ}

/-- What is let through is what may be stored. -/
theorem accepted_iff_storable : Accepted service body ↔ Storable service.maxSize body := by
  constructor
  · rintro ⟨text, decoded, fine⟩
    obtain rfl := Bytes.ofText_of_toText? decoded
    obtain ⟨⟨given, short⟩, visible⟩ := textFault?_eq_none_iff.mp fine
    exact ⟨given, short, text.toList, Bytes.ofText_eq_flatMap text, Text.isBlank_eq_false_iff.mp visible⟩
  · rintro ⟨given, short, chars, written, visible⟩
    have same : Bytes.ofText (String.ofList chars) = body := by
      rw [Bytes.ofText_eq_flatMap, String.toList_ofList, written]
    subst same
    refine ⟨String.ofList chars, Bytes.toText?_ofText _, textFault?_eq_none_iff.mpr ⟨⟨given, short⟩, ?_⟩⟩
    rwa [Text.isBlank_eq_false_iff, String.toList_ofList]

/-- A text is not found too large whose bytes were not. -/
theorem textFault?_ne_tooLarge {limit other : Int} {text : String} (decoded : Bytes.toText? body = some text)
    (short : (body.length : Int) ≤ limit) : textFault? limit text ≠ some (.tooLarge other) := by
  obtain rfl := Bytes.ofText_of_toText? decoded
  rw [Bytes.length_ofText_eq_utf8ByteSize] at short
  unfold textFault?
  rw [if_neg (Int.not_lt.mpr short)]
  split
  · nofun
  · split <;> nofun

theorem save_refused (refused : ¬ Accepted service body) (world : ρ × σ) :
    ∃ message, (save service source store now body world).result = .ok (Reply.error message) ∧
      (save service source store now body world).state = world := by
  unfold save
  split
  · exact ⟨_, rfl, rfl⟩
  split
  · exact ⟨_, rfl, rfl⟩
  cases decoded : Bytes.toText? body with
  | none => exact ⟨_, rfl, rfl⟩
  | some text =>
    cases fault : textFault? service.maxSize text with
    | none => exact absurd ⟨text, decoded, fault⟩ refused
    | some reason =>
      simp only [Service.create, Creation.start, fault, Creation.step, Creation.result]
      exact ⟨_, rfl, trivial⟩

theorem save_granted (lawful : store.Lawful shelf) (working : store.Working shelf sound) (random : source.Working)
    (reached : (now.after? service.retention).isSome) (well : sound world.2) (accepted : Accepted service body) :
    ∃ identifier key envelope,
      (save service source store now body world).result = .ok (Identifier.write identifier) ∧
      Base64.decode? identifier.aesKey = some key ∧
      (shelf (save service source store now body world).state.2).find? (Key.message identifier.messageId) =
        some ⟨envelope, some (now + service.retention)⟩ ∧
      Envelope.unlock envelope key = .ok body := by
  obtain ⟨text, decoded, fine⟩ := accepted
  obtain rfl := Bytes.ofText_of_toText? decoded
  obtain ⟨id, envelope, key, drawn⟩ := random.draw text world.1
  have stored := (@KeyValueStore.Working.put σ store shelf sound working now (Key.message id) envelope
    service.retention world.2 well).1 _ (expiry_of_after? reached)
  have created := Service.create_eq_success fine drawn stored
  obtain ⟨made, secret, again, written, here, _⟩ := Service.create_deposits lawful created
  obtain ⟨replied, state⟩ := save_created created
  refine ⟨_, secret, made, replied, ?_, state ▸ here, (Creation.draw_forms again).unlock_eq⟩
  rw [written, Base64.decode?_encode]

/-- A request to save is replied to with an identifier just where its body may be stored; the envelope under that
identifier opens to the body. Any other request is told of an error and leaves everything as it was. Only the size of
the body is ever found too large, not that of its text. -/
theorem save_iff_storable (lawful : store.Lawful shelf) (working : store.Working shelf sound) (random : source.Working)
    (reached : (now.after? service.retention).isSome) (well : sound world.2) (body : Option Bytes) :
    let bytes := body.getD []
    let run := save service source store now bytes world
    ((∃ identifier : Identifier String, run.result = .ok identifier.write) ↔ Storable service.maxSize bytes) ∧
    (∀ identifier : Identifier String, run.result = .ok identifier.write →
      ∃ key envelope, Base64.decode? identifier.aesKey = some key ∧
        (shelf run.state.2).find? (Key.message identifier.messageId) =
          some ⟨envelope, some (now + service.retention)⟩ ∧
        Envelope.unlock envelope key = .ok bytes) ∧
    (¬ Storable service.maxSize bytes →
      ∃ message, run.result = .ok (Reply.error message) ∧ run.state = world) ∧
    ∀ text limit, Bytes.toText? bytes = some text → (bytes.length : Int) ≤ service.maxSize →
      textFault? service.maxSize text ≠ some (.tooLarge limit) := by
  intro bytes run
  rw [← accepted_iff_storable]
  refine ⟨⟨fun ⟨_, saved⟩ => accepted_of_saved saved, fun accepted => ?_⟩, fun identifier saved => ?_,
    fun refused => save_refused refused world, fun _ _ decoded short => textFault?_ne_tooLarge decoded short⟩
  · obtain ⟨identifier, _, _, saved, _⟩ := save_granted lawful working random reached well accepted
    exact ⟨identifier, saved⟩
  · obtain ⟨granted, key, envelope, replied, read, here, opens⟩ :=
      save_granted lawful working random reached well (accepted_of_saved saved)
    obtain rfl := Identifier.write_inj.mp (Except.ok.inj (saved.symm.trans replied))
    exact ⟨key, envelope, read, here, opens⟩

/-- Two bytes fit into two, if they are the form of a character: those of an accented letter are stored, and those of a
surrogate are not. -/
theorem save_iff_storable_letter :
    let service : Service := ⟨Duration.day, 3, 3⟩
    let source : RandomSource Nat :=
      ⟨fun length calls => (.bytes (List.replicate length (UInt8.ofNat calls)), calls + 1)⟩
    let world : Nat × Backend := (0, .memory .empty)
    source.Working ∧ (Instant.after? 0 service.retention).isSome = true ∧ world.2.Steady ∧
      (∃ identifier : Identifier String,
        (save service source Backend.interface 0 [0xc3, 0xa9] world).result = .ok identifier.write) ∧
      ∃ message,
        (save service source Backend.interface 0 [0xed, 0xa0, 0x80] world).result = .ok (Reply.error message) ∧
        (save service source Backend.interface 0 [0xed, 0xa0, 0x80] world).state = world := by
  intro service source world
  have random : source.Working := fun length calls => ⟨_, rfl, List.length_replicate⟩
  have reached : (Instant.after? 0 service.retention).isSome = true := by decide
  have well : world.2.Steady := trivial
  obtain ⟨granted, _⟩ :=
    save_iff_storable Backend.lawful Backend.working random reached well (some [0xc3, 0xa9])
  obtain ⟨_, _, refused, _⟩ :=
    save_iff_storable Backend.lawful Backend.working random reached well (some [0xed, 0xa0, 0x80])
  refine ⟨random, reached, well, granted.mpr ⟨nofun, by decide, ['é'], by decide, 'é', by decide, by decide⟩,
    refused ?_⟩
  intro storable
  obtain ⟨text, decoded, _⟩ := accepted_iff_storable.mpr storable
  have none : Bytes.toText? [0xed, 0xa0, 0x80] = none := by decide +kernel
  rw [Option.getD_some, none] at decoded
  cases decoded

end Broker.Handler
end ReadOnce
