import Mathlib.Data.List.Induction
import ReadOnce.Proofs.Atomicity

/-!
What an id keeps of the bytes that were drawn for it. Of their 128 bits six give way to the version and the variant,
and all others can be read from the id. So two ids are the same exactly if the draws agree in 122 bits, and as long as
they do not, one creation leaves alone what another has stored.
-/
namespace ReadOnce

namespace Bytes

theorem toNat_concat (bytes : Bytes) (last : UInt8) : toNat (bytes ++ [last]) = 2 ^ 8 * toNat bytes + last.toNat := by
  rw [toNat, List.foldl_append, Nat.mul_comm]
  rfl

/-- A bit of the number that bytes write is a bit of one of them, counted from the last. -/
theorem testBit_toNat (bytes : Bytes) (place : Nat) :
    (toNat bytes).testBit place = bytes.reverse[place / 8]?.any fun byte => byte.toNat.testBit (place % 8) := by
  induction bytes using List.reverseRecOn generalizing place with
  | nil => exact Nat.zero_testBit place
  | append_singleton front last ih =>
    rw [toNat_concat, Nat.testBit_two_pow_mul_add _ last.toNat_lt, List.reverse_append, List.reverse_singleton,
      List.singleton_append]
    by_cases low : place < 8
    · rw [if_pos low, Nat.div_eq_of_lt low, Nat.mod_eq_of_lt low]
      rfl
    · have up : place / 8 = (place - 8) / 8 + 1 := by omega
      have same : place % 8 = (place - 8) % 8 := by omega
      rw [if_neg low, ih, up, same, List.getElem?_cons_succ]

/-- As many bytes write the same number only if they are the same. -/
theorem toNat_inj {first second : Bytes} (sized : first.length = second.length)
    (same : toNat first = toNat second) : first = second := by
  induction first using List.reverseRecOn generalizing second with
  | nil => exact (List.length_eq_zero_iff.mp sized.symm).symm
  | append_singleton front last ih =>
    rcases List.eq_nil_or_concat' second with rfl | ⟨others, final, rfl⟩
    · simp at sized
    · rw [toNat_concat, toNat_concat] at same
      have low := last.toNat_lt
      have small := final.toNat_lt
      rw [List.length_append, List.length_append, List.length_singleton, List.length_singleton] at sized
      have fronts : front = others := ih (by omega) (by omega)
      have lasts : last = final := UInt8.toNat_inj.mp (by omega)
      rw [fronts, lasts]

end Bytes

namespace Text.Hex

private theorem go_pairs (bytes : Bytes) (read : Array UInt8) :
    decode?.go (bytes.flatMap pair) read = some (read.toList ++ bytes) := by
  induction bytes generalizing read with
  | nil =>
    rw [List.append_nil]
    rfl
  | cons byte rest ih =>
    have below := byte.toNat_lt
    have high : value? (digit (byte.toNat / 16)) = some (byte.toNat / 16) := value?_digit (by omega)
    have low : value? (digit (byte.toNat % 16)) = some (byte.toNat % 16) := value?_digit (by omega)
    have whole : UInt8.ofNat (byte.toNat / 16 * 16 + byte.toNat % 16) = byte := by
      rw [Nat.div_add_mod', UInt8.ofNat_toNat]
    simp only [List.flatMap_cons, pair, List.cons_append, List.nil_append, decode?.go, high, low, whole, ih,
      Array.toList_push, List.append_assoc]

theorem decode?_encode (bytes : Bytes) : decode? (encode bytes) = some bytes := by
  rw [decode?, encode, String.toList_ofList, go_pairs]
  rfl

end Text.Hex

namespace Message

open Store

namespace Id

@[simp] theorem length_mark (bytes : Bytes) : (mark bytes).length = bytes.length := by
  rw [mark, List.length_mapIdx]

/-- The bytes that the digits of an id write. -/
def bytes? (id : String) : Option Bytes := Text.Hex.decode? (String.ofList (id.toList.filter (· ≠ '-')))

private theorem filter_grouped {digits : List Char} (many : digits.length = 32) (plain : '-' ∉ digits) :
    (grouped digits).toList.filter (· ≠ '-') = digits := by
  have kept (start count : Nat) :
      ((digits.drop start).take count).filter (· ≠ '-') = (digits.drop start).take count :=
    List.filter_eq_self.mpr fun char member => decide_eq_true fun dash =>
      plain (dash ▸ List.mem_of_mem_drop (List.mem_of_mem_take member))
  -- a group and what follows it is what follows the group before
  have joined (start count : Nat) :
      (digits.drop start).take count ++ digits.drop (start + count) = digits.drop start := by
    rw [← List.drop_drop, List.take_append_drop]
  have last : (digits.drop 20).take 12 = digits.drop 20 := List.take_of_length_le (by rw [List.length_drop, many])
  simp only [grouped, String.toList_ofList, List.filter_append, List.filter_cons_of_neg, kept, not_true_eq_false,
    decide_false, Bool.false_eq_true, not_false_eq_true, ne_eq]
  rw [last, List.append_assoc, List.append_assoc, List.append_assoc, joined 16 4, joined 12 4, joined 8 4, joined 0 8,
    List.drop_zero]

/-- An id tells all the bytes that were drawn, but for its version and its variant. -/
theorem bytes?_ofBytes {bytes : Bytes} (drawn : bytes.length = length) :
    bytes? (ofBytes bytes) = some (mark bytes) := by
  have many : ((mark bytes).flatMap Text.Hex.pair).length = 32 := by
    rw [Text.Hex.length_pairs, length_mark, drawn, length]
  have plain : '-' ∉ (mark bytes).flatMap Text.Hex.pair := fun member => by
    have lower := Text.Hex.isLower_of_mem_pairs member
    exact absurd lower (by decide)
  have digits : (ofBytes bytes).toList.filter (· ≠ '-') = (mark bytes).flatMap Text.Hex.pair :=
    filter_grouped many plain
  rw [bytes?, digits]
  exact Text.Hex.decode?_encode (mark bytes)

/-- The places of the variant's two bits and of the version's four, in the number that the bytes of an id write. -/
def fixedPlaces : List Nat := [62, 63, 76, 77, 78, 79]

/-- The places of all other bits. -/
def drawnPlaces : List Nat := (List.range 128).filter (· ∉ fixedPlaces)

/-- Two draws are alike in all bits that an id keeps. -/
def Agree (first second : Bytes) : Prop :=
  ∀ place ∈ drawnPlaces, (Bytes.toNat first).testBit place = (Bytes.toNat second).testBit place

instance (first second : Bytes) : Decidable (Agree first second) :=
  inferInstanceAs (Decidable (∀ place ∈ drawnPlaces, _))

private theorem testBit_stamp {byte mask flag : UInt8} (width top : Nat) (masks : mask.toNat = 2 ^ width - 1)
    (flags : flag.toNat = 2 ^ top) (above : width ≤ top) (place : Nat) :
    ((byte &&& mask) ||| flag).toNat.testBit place =
      if place < width then byte.toNat.testBit place else decide (place = top) := by
  rw [UInt8.toNat_or, UInt8.toNat_and, Nat.testBit_or, Nat.testBit_and, masks, flags, Nat.testBit_two_pow_sub_one,
    Nat.testBit_two_pow]
  split
  · next low => rw [decide_eq_true low, decide_eq_false (by omega), Bool.and_true, Bool.or_false]
  · next high =>
    rw [decide_eq_false high, Bool.and_false, Bool.false_or, decide_eq_decide]
    exact eq_comm

theorem mem_fixedPlaces {place : Nat} :
    place ∈ fixedPlaces ↔ (place = 62 ∨ place = 63) ∨ 76 ≤ place ∧ place ≤ 79 := by
  simp only [fixedPlaces, List.mem_cons, List.not_mem_nil, or_false]
  omega

theorem mem_drawnPlaces {place : Nat} : place ∈ drawnPlaces ↔ place < 128 ∧ place ∉ fixedPlaces := by
  simp [drawnPlaces]

/-- The version is four and the variant begins with one and zero; all other bits are as they were drawn. -/
theorem testBit_mark {bytes : Bytes} (drawn : bytes.length = length) {place : Nat} (inside : place < 128) :
    (Bytes.toNat (mark bytes)).testBit place =
      if place ∈ fixedPlaces then decide (place = 63 ∨ place = 78) else (Bytes.toNat bytes).testBit place := by
  rw [length] at drawn
  have marked : (mark bytes).length = 16 := by rw [length_mark, drawn]
  have backwards {list : Bytes} (full : list.length = 16) : list.reverse[place / 8]? = list[15 - place / 8]? := by
    rw [List.getElem?_reverse (by omega), full]
  have there : 15 - place / 8 < bytes.length := by omega
  rw [Bytes.testBit_toNat, Bytes.testBit_toNat, backwards marked, backwards drawn, mark, List.getElem?_mapIdx,
    List.getElem?_eq_getElem there, Option.map_some, Option.any_some, Option.any_some]
  have free (outside : ¬((place = 62 ∨ place = 63) ∨ 76 ≤ place ∧ place ≤ 79)) : place ∉ fixedPlaces :=
    mt mem_fixedPlaces.mp outside
  -- only the seventh and the ninth byte are not left as they are
  by_cases sixth : 15 - place / 8 = 6
  · rw [if_pos sixth, testBit_stamp 4 6 rfl rfl (by decide)]
    by_cases low : place % 8 < 4
    · rw [if_pos low, if_neg (free (by omega))]
    · rw [if_neg low, if_pos (mem_fixedPlaces.mpr (by omega)), decide_eq_decide]
      omega
  rw [if_neg sixth]
  by_cases eighth : 15 - place / 8 = 8
  · rw [if_pos eighth, testBit_stamp 6 7 rfl rfl (by decide)]
    by_cases low : place % 8 < 6
    · rw [if_pos low, if_neg (free (by omega))]
    · rw [if_neg low, if_pos (mem_fixedPlaces.mpr (by omega)), decide_eq_decide]
      omega
  · rw [if_neg eighth, if_neg (free (by omega))]

variable {first second : Bytes}

theorem mark_eq_iff (full : first.length = length) (alsoFull : second.length = length) :
    mark first = mark second ↔ Agree first second := by
  constructor
  · intro same place kept
    obtain ⟨inside, free⟩ := mem_drawnPlaces.mp kept
    have bits := congrArg (fun marked => (Bytes.toNat marked).testBit place) same
    simpa only [testBit_mark full inside, testBit_mark alsoFull inside, if_neg free] using bits
  · intro agree
    have sized : (mark first).length = (mark second).length := by
      rw [length_mark, length_mark, full, alsoFull]
    refine Bytes.toNat_inj sized (Nat.eq_of_testBit_eq fun place => ?_)
    by_cases inside : place < 128
    · rw [testBit_mark full inside, testBit_mark alsoFull inside]
      split
      · rfl
      · next free => exact agree place (mem_drawnPlaces.mpr ⟨inside, free⟩)
    · -- there are no more bits than these
      have beyond {bytes : Bytes} (drawn : bytes.length = length) : (mark bytes).reverse[place / 8]? = none := by
        rw [List.getElem?_eq_none_iff, List.length_reverse, length_mark, drawn, length]
        omega
      rw [Bytes.testBit_toNat, Bytes.testBit_toNat, beyond full, beyond alsoFull]

theorem ofBytes_eq_iff (full : first.length = length) (alsoFull : second.length = length) :
    ofBytes first = ofBytes second ↔ Agree first second := by
  rw [← mark_eq_iff full alsoFull]
  constructor
  · intro same
    have told := congrArg bytes? same
    rw [bytes?_ofBytes full, bytes?_ofBytes alsoFull] at told
    exact Option.some.inj told
  · intro same
    rw [ofBytes, ofBytes, same]

end Id

variable {ρ σ : Type} {service : Service} {source : RandomSource ρ} {store : KeyValueStore σ} {now : Instant}
  {text : String} {desk : ρ × σ} {identifier : Identifier String}

/-- The id that is handed out is made of the first sixteen bytes that are drawn. -/
theorem Service.create_drawn
    (created : (service.create source store now text desk).result = .ok (.success identifier)) :
    ∃ bytes next, source.draw Id.length desk.1 = (.bytes bytes, next) ∧ bytes.length = Id.length ∧
      identifier.messageId = Id.ofBytes bytes := by
  simp only [create] at created
  cases begun : (Creation.start service source text desk.1).result with
  | ended result =>
    rw [begun] at created
    exact absurd created (Creation.start_ended begun _)
  | storing id envelope key =>
    obtain ⟨bytes, initial, threefold, named, _⟩ :=
      Creation.draw_eq_ok_iff.mp (Prod.ext (Creation.start_storing begun).2 rfl)
    obtain ⟨next, _, first, _⟩ := threefold.drawn
    refine ⟨bytes, next, first, threefold.sized.1, ?_⟩
    rw [begun, Creation.step] at created
    generalize store.put now (Key.message id) envelope service.retention desk.2 = answer at created
    rcases answer with ⟨fault | done, later⟩
    · cases fault <;> cases created
    · cases created
      exact named

/-- A creation leaves the envelope of an earlier one where it is, unless their draws agree. -/
theorem Service.create_keeps {shelf : σ → Shelf} (lawful : store.Lawful shelf)
    (created : (service.create source store now text desk).result = .ok (.success identifier)) {earlier : Bytes}
    (full : earlier.length = Id.length) :
    (∃ bytes next, source.draw Id.length desk.1 = (.bytes bytes, next) ∧ Id.Agree earlier bytes) ∨
      (shelf (service.create source store now text desk).state.2).find? (Key.message (Id.ofBytes earlier)) =
        (shelf desk.2).find? (Key.message (Id.ofBytes earlier)) := by
  obtain ⟨bytes, next, first, drawn, named⟩ := Service.create_drawn created
  by_cases agree : Id.Agree earlier bytes
  · exact .inl ⟨bytes, next, first, agree⟩
  · obtain ⟨_, _, _, _, _, others⟩ := Service.create_deposits lawful created
    refine .inr (others _ fun same => agree ?_)
    rw [named, Key.message_inj] at same
    exact (Id.ofBytes_eq_iff full drawn).mp same

/-- Sixteen bytes make an id in the canonical form on 36 characters. Two draws make the same id exactly if they agree
in the 122 bits that are neither the version's nor the variant's, and two creations hand out the same id exactly if
what they drew for it does. -/
theorem Id.collides_iff :
    (∀ bytes : Bytes, bytes.length = length → Canonical (ofBytes bytes) ∧ (ofBytes bytes).length = 36) ∧
    drawnPlaces.length = 122 ∧
    (∀ first second : Bytes, first.length = length → second.length = length →
      (ofBytes first = ofBytes second ↔ Agree first second)) ∧
    ∀ {ρ σ ρ' σ' : Type} (service service' : Service) (source : RandomSource ρ) (source' : RandomSource ρ')
      (store : KeyValueStore σ) (store' : KeyValueStore σ') (now now' : Instant) (text text' : String)
      (desk : ρ × σ) (desk' : ρ' × σ') (identifier identifier' : Identifier String),
      (service.create source store now text desk).result = .ok (.success identifier) →
      (service'.create source' store' now' text' desk').result = .ok (.success identifier') →
      ∃ first second next next',
        source.draw length desk.1 = (.bytes first, next) ∧ source'.draw length desk'.1 = (.bytes second, next') ∧
        first.length = length ∧ second.length = length ∧
        (identifier.messageId = identifier'.messageId ↔ Agree first second) := by
  refine ⟨fun bytes drawn => ?_, by decide +kernel, fun first second => ofBytes_eq_iff, ?_⟩
  · have canonical := canonical_ofBytes drawn
    exact ⟨canonical, canonical.length_eq⟩
  · intro ρ σ ρ' σ' service service' source source' store store' now now' text text' desk desk' identifier identifier'
      created created'
    obtain ⟨first, next, drawn, full, named⟩ := Service.create_drawn created
    obtain ⟨second, next', drawn', full', named'⟩ := Service.create_drawn created'
    refine ⟨first, second, next, next', drawn, drawn', full, full', ?_⟩
    rw [named, named']
    exact ofBytes_eq_iff full full'

/-- A source that deals out what lies on a pile. -/
private def dealer : RandomSource (List Bytes) where
  draw _ pile :=
    match pile with
    | [] => (.unavailable, [])
    | top :: rest => (.bytes top, rest)

/-- Bits of the version and the variant make no other id, and the lowest bit does. -/
theorem Id.collides_iff_stamped :
    let blank : Bytes := List.replicate 16 0
    let stamped : Bytes := (blank.set 6 0xf0).set 8 0xc0
    let odd : Bytes := blank.set 15 1
    let create (id : Bytes) := Service.create ⟨Duration.day, 3, 64⟩ dealer Backend.interface 0 "hello"
      ([id, List.replicate 32 1, List.replicate 16 2], .memory .empty)
    Canonical (ofBytes blank) ∧ ofBytes blank = ofBytes stamped ∧
      ∃ identifier identifier' identifier'', (create blank).result = .ok (.success identifier) ∧
        (create stamped).result = .ok (.success identifier') ∧ (create odd).result = .ok (.success identifier'') ∧
        identifier.messageId = identifier'.messageId ∧ identifier.messageId ≠ identifier''.messageId := by
  intro blank stamped odd create
  have agree : Agree blank stamped := by decide +kernel
  have apart : ¬ Agree blank odd := by decide +kernel
  obtain ⟨formed, _, same, handed⟩ := collides_iff
  have created : (create blank).result = .ok (.success ⟨ofBytes blank, Base64.encode (List.replicate 32 1)⟩) := rfl
  have created' : (create stamped).result =
    .ok (.success ⟨ofBytes stamped, Base64.encode (List.replicate 32 1)⟩) := rfl
  have created'' : (create odd).result = .ok (.success ⟨ofBytes odd, Base64.encode (List.replicate 32 1)⟩) := rfl
  refine ⟨(formed blank rfl).1, (same blank stamped rfl rfl).mpr agree, _, _, _, created, created', created'', ?_, ?_⟩
  · obtain ⟨_, _, _, _, first, second, _, _, together⟩ :=
      handed _ _ _ _ _ _ _ _ _ _ _ _ _ _ created created'
    cases first
    cases second
    exact together.mpr agree
  · obtain ⟨_, _, _, _, first, second, _, _, together⟩ :=
      handed _ _ _ _ _ _ _ _ _ _ _ _ _ _ created created''
    cases first
    cases second
    exact mt together.mp apart

end Message
end ReadOnce
