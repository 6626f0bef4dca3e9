import ReadOnce.Proofs.Handler
import ReadOnce.Proofs.Json.Reading
import ReadOnce.Store.Backend

/-!
Requests to receive, however they are written. The last members named `messageId` and `aesKey` decide what is asked
for, if both are strings; blanks, escapes, the order of the members and all other members are of no account.
-/
namespace ReadOnce

open Json Validation

namespace Message.Identifier

variable {document : Document} {members : List (String × Form)} {name : String}

private theorem textMember_of_last {text : String} (object : document.root.members? = some members)
    (last : document.lastText? name = some text) :
    textMember (members.map fun member => (.ofString member.1, member.2.value)) name = .ok (.ofString text) := by
  simp only [Document.lastText?, object, Option.bind_eq_bind, Option.bind_some] at last
  obtain ⟨member, found, given⟩ := Option.bind_eq_some_iff.mp last
  rw [textMember, lookup?_map, found, Option.map_some, Form.value_of_text? given]
  rfl

private theorem textMember_of_none (object : document.root.members? = some members)
    (last : document.lastText? name = none) :
    ∃ issues, textMember (members.map fun member => (.ofString member.1, member.2.value)) name = .error issues := by
  simp only [Document.lastText?, object, Option.bind_eq_bind, Option.bind_some] at last
  rw [textMember, lookup?_map]
  cases found : (members.filter (·.1 = name)).getLast? with
  | none => exact ⟨[⟨some name, .missing⟩], rfl⟩
  | some member =>
    rw [found, Option.bind_some] at last
    refine ⟨[⟨some name, .text⟩], ?_⟩
    rw [Option.map_some]
    split
    · next none => cases none
    · next text same => exact absurd (Option.some.inj same) (Form.value_ne_str last text)
    · rfl

/-- The last members of the two names are the identifier, if both are strings. -/
theorem read_of_last {messageId aesKey : String} (fits : document.Fits limits)
    (object : document.root.members?.isSome = true) (id : document.lastText? "messageId" = some messageId)
    (key : document.lastText? "aesKey" = some aesKey) : read document.bytes = .ok ⟨messageId, aesKey⟩ := by
  obtain ⟨members, given⟩ := Option.isSome_iff_exists.mp object
  have parsed := Document.read_text fits
  rw [Form.value_of_members? given] at parsed
  have made : ofJson .object (.obj (members.map fun member => (.ofString member.1, member.2.value))) =
      .ok (widen ⟨messageId, aesKey⟩) := by
    rw [ofJson, textMember_of_last given id, textMember_of_last given key]
    rfl
  have narrow : (widen ⟨messageId, aesKey⟩).narrow? = some ⟨messageId, aesKey⟩ := by
    simp only [narrow?, widen, WideText.toString?_ofString]
    rfl
  simp only [read, Document.bytes, Bytes.toText?_ofText, parsed, made, bind, Except.bind, narrow]
  rfl

theorem read_of_none (fits : document.Fits limits) (object : document.root.members?.isSome = true)
    (lacking : document.lastText? "messageId" = none ∨ document.lastText? "aesKey" = none) :
    ∃ issues, read document.bytes = .error issues := by
  obtain ⟨members, given⟩ := Option.isSome_iff_exists.mp object
  suffices refused : ∃ issues,
      ofJson .object (.obj (members.map fun member => (.ofString member.1, member.2.value))) = .error issues by
    obtain ⟨issues, same⟩ := refused
    have parsed := Document.read_text fits
    rw [Form.value_of_members? given] at parsed
    refine ⟨issues, ?_⟩
    simp only [read, Document.bytes, Bytes.toText?_ofText, parsed, same, bind, Except.bind]
  rw [ofJson]
  rcases lacking with id | key
  · obtain ⟨issues, missing⟩ := textMember_of_none given id
    rw [missing]
    cases textMember (members.map fun member => (.ofString member.1, member.2.value)) "aesKey" with
    | ok key => exact ⟨issues, rfl⟩
    | error more => exact ⟨issues ++ more, rfl⟩
  · obtain ⟨issues, missing⟩ := textMember_of_none given key
    rw [missing]
    cases textMember (members.map fun member => (.ofString member.1, member.2.value)) "messageId" with
    | ok id => exact ⟨issues, rfl⟩
    | error more => exact ⟨more ++ issues, rfl⟩

end Message.Identifier

namespace Broker.Handler

open Message Store

variable {σ : Type}

/-- A body that a service takes and reads as an object. -/
structure Legible (service : Service) (document : Document) : Prop where
  object : document.root.members?.isSome = true
  fits : document.Fits Identifier.limits
  brief : (document.bytes.length : Int) ≤ service.maxSize

private theorem Legible.isEmpty_bytes {service : Service} {document : Document} (legible : Legible service document) :
    document.bytes.isEmpty = false := by
  have written : document.root.chars ≠ [] := by
    have object := legible.object
    cases given : document.root with
    | emptyObject | object => exact List.cons_ne_nil _ _
    | word | number | text | emptyArray | array =>
      rw [given] at object
      cases object
  cases same : document.bytes with
  | cons => rfl
  | nil =>
    have none : Bytes.toText? document.bytes = some document.text := Bytes.toText?_ofText document.text
    rw [same] at none
    have chars := congrArg String.toList (Option.some.inj none)
    rw [Document.text, String.toList_ofList] at chars
    exact absurd (List.append_eq_nil_iff.mp (List.append_eq_nil_iff.mp chars.symm).2).1 written

/-- An identifier that is written is read back; of any other way to write a request, only the last members of the two
names count. Where one of them is missing or no string, the request is refused and the store is left as it is. -/
theorem receive_document (service : Service) (store : KeyValueStore σ) (now : Instant) (state : σ) :
    (∀ identifier : Identifier String, Identifier.read (Bytes.ofText identifier.write) = .ok identifier) ∧
    (∀ first second : Document, Legible service first → Legible service second → ∀ messageId aesKey : String,
      first.lastText? "messageId" = some messageId → first.lastText? "aesKey" = some aesKey →
      second.lastText? "messageId" = some messageId → second.lastText? "aesKey" = some aesKey →
      receive service store now first.bytes state = receive service store now second.bytes state) ∧
    ∀ document : Document, Legible service document →
      (document.lastText? "messageId" = none ∨ document.lastText? "aesKey" = none) →
      (receive service store now document.bytes state).result =
          .ok (Reply.error "Invalid message identifier format") ∧
        (receive service store now document.bytes state).state = state := by
  have taken {document : Document} (legible : Legible service document) :
      ¬ service.maxSize < (document.bytes.length : Int) := Int.not_lt.mpr legible.brief
  refine ⟨Identifier.read_write, ?_, ?_⟩
  · intro first second legible readable messageId aesKey id key sameId sameKey
    have one := Identifier.read_of_last legible.fits legible.object id key
    have other := Identifier.read_of_last readable.fits readable.object sameId sameKey
    simp only [receive, legible.isEmpty_bytes, readable.isEmpty_bytes,
      Bool.false_eq_true, if_false, if_neg (taken legible), if_neg (taken readable), one, other]
  · intro document legible lacking
    obtain ⟨issues, refused⟩ := Identifier.read_of_none legible.fits legible.object lacking
    simp only [receive, legible.isEmpty_bytes, Bool.false_eq_true, if_false, if_neg (taken legible),
      refused, true_and]

/-- A string that is written as it stands. -/
private def verbatim (text : String)
    (plain : text.toList.all (fun char => decide (0x20 ≤ char.toNat ∧ char ≠ '"' ∧ char ≠ '\\')) = true) : Phrase :=
  ⟨text.toList.attach.map fun char =>
    have each := of_decide_eq_true (List.all_eq_true.mp plain char.1 char.2)
    .plain char.1 each.1 each.2.1 each.2.2⟩

private def idName : Heading := ⟨.none, verbatim "messageId" rfl, .none⟩

private def keyName : Heading := ⟨.none, verbatim "aesKey" rfl, .none⟩

private def keyMember : Members → Members := .member keyName .none (.text (verbatim "k" rfl)) .none

/-- A request as it is printed. -/
def terse : Document := ⟨.none, .object idName .none (.text (verbatim "a" rfl)) .none (keyMember .none), .none⟩

/-- The same request with blanks, a further member that nests, and an id that is given twice, the last time in
escapes. -/
def verbose : Document :=
  let blank : Blanks := ⟨[' ', '\n'], List.all_eq_true.mp rfl⟩
  let escaped : Phrase := ⟨[.unit (.print 'a'.toNat) 'a' (Quad.number_print (by decide))]⟩
  let half : Number :=
    ⟨true, ['0'], ['5'], none, List.cons_ne_nil _ _, List.all_eq_true.mp rfl, fun _ => rfl, List.all_eq_true.mp rfl⟩
  let nested : Form := .array blank (.number half) .none (.item .none (.emptyObject blank) .none .none)
  ⟨blank, .object ⟨blank, verbatim "secretKey" rfl, blank⟩ .none nested .none
    (.member idName blank (.text (verbatim "b" rfl)) .none
      (keyMember (.member idName .none (.text escaped) blank .none))), .none⟩

/-- A request whose key is no string. -/
def keyless : Document :=
  ⟨.none, .object idName .none (.text (verbatim "a" rfl)) .none
    (.member keyName .none (.word .null) .none .none), .none⟩

theorem receive_document_verbose :
    let service : Service := ⟨7 * Duration.day, 3, 128⟩
    let state : Backend := .memory .empty
    let reply (document : Document) := receive service Backend.interface 0 document.bytes state
    Legible service terse ∧ Legible service verbose ∧ Legible service keyless ∧ reply terse = reply verbose ∧
      (reply keyless).result = .ok (Reply.error "Invalid message identifier format") ∧
        (reply keyless).state = state := by
  intro service state reply
  have one : Legible service terse := ⟨rfl, ⟨by decide, trivial, trivial, trivial⟩, by decide⟩
  have other : Legible service verbose :=
    ⟨rfl, ⟨by decide, ⟨fun _ => by decide, trivial, trivial⟩, trivial, trivial, trivial, trivial⟩, by decide⟩
  have third : Legible service keyless := ⟨rfl, ⟨by decide, trivial, trivial, trivial⟩, by decide⟩
  obtain ⟨_, same, refused⟩ := receive_document service Backend.interface 0 state
  exact ⟨one, other, third, same terse verbose one other "a" "k" rfl rfl rfl rfl,
    refused keyless third (.inr rfl)⟩

end Broker.Handler
end ReadOnce
