import ReadOnce.Proofs.Desk
import ReadOnce.Proofs.Handler
import ReadOnce.Proofs.Settings
import ReadOnce.Proofs.Store.Steady

/-!
A secret from one end of the bus to the other and back: it is saved through the broker, and received with the
identifier that came back. The limit on sizes holds for requests of both kinds, so what was saved can be received just
where a request to receive fits in it.
-/
namespace ReadOnce

open Message Store

variable {ρ σ : Type}

/-- Where a store works, the first attempt at a live message gives its text. -/
theorem Message.Service.retrieve_first {service : Service} {store : KeyValueStore σ} {shelf : σ → Shelf}
    {sound : σ → Prop} {now : Instant} {id keyText text : String} {key : Bytes} {entry : Entry} {state : σ}
    (lawful : store.Lawful shelf) (working : store.Working shelf sound) (well : sound state)
    (accepted : keyOf id keyText = .ok key) (allowed : 1 ≤ service.maxTries)
    (reached : (now.after? service.retention).isSome)
    (untried : (shelf state).live? now (Key.attempts id) = none)
    (there : (shelf state).live? now (Key.message id) = some entry)
    (opens : Retrieval.reveal? entry.value key = some text) :
    (service.retrieve store now id keyText state).result = .ok (.success text) := by
  have apart := Key.message_ne_attempts id id
  have due := counterExpiry_of_after? reached
  obtain ⟨first, counted, well, _, others⟩ := working.begin_count lawful well due untried
  have still : (shelf first).live? now (Key.message id) = some entry := by
    rw [Shelf.live?, others _ apart]
    exact there
  obtain ⟨second, got, well, tidied⟩ := working.read lawful well now (Key.message id)
  obtain ⟨third, won, well, _⟩ := working.remove lawful well now (Key.message id)
  obtain ⟨fourth, removed, _⟩ := working.remove lawful well now (Key.attempts id)
  rw [still] at got
  rw [tidied.live?_eq, still] at won
  simp only [retrieve, accepted, Retrieval.remaining, Retrieval.steps, Retrieval.step, counted,
    if_neg (Int.not_lt.mpr allowed), got, Option.map_some, Retrieval.examine, opens, won, Option.isSome_some, removed,
    Retrieval.result]

open Broker in
/-- A client saves a text through a broker, which has been at work before, and asks for it again later. -/
structure Conversation (ρ σ : Type) where
  settings : Settings
  broker : Broker
  past : List Dispatcher.Event
  source : RandomSource ρ
  store : KeyValueStore σ
  world : ρ × σ
  text : String
  savedAt : Instant
  receivedAt : Instant
  /-- Where the client waits for its two replies. -/
  inboxes : String × String

namespace Conversation

open Broker

/-- The request to save the text, with what becomes of the dispatcher, the random source and the store. -/
def saving (talk : Conversation ρ σ) : Option Bytes × Desk ρ σ :=
  Desk.ask talk.broker.service talk.source talk.store talk.savedAt
    ⟨.save, talk.inboxes.1, Bytes.ofText (Client.saveBody talk.text)⟩
    ⟨talk.broker.dispatcher.run talk.past, talk.world⟩

/-- What the client makes of the reply. -/
def saved (talk : Conversation ρ σ) : Except Client.Fault (Identifier WideText) := Client.saved talk.saving.1

/-- The request to receive a message right after it. -/
def receiving (talk : Conversation ρ σ) (identifier : Identifier String) : Option Bytes × Desk ρ σ :=
  Desk.ask talk.broker.service talk.source talk.store talk.receivedAt
    ⟨.receive, talk.inboxes.2, Bytes.ofText (Client.receiveBody identifier)⟩ talk.saving.2

def received (talk : Conversation ρ σ) (identifier : Identifier String) : Except Client.Fault WideText :=
  Client.received (talk.receiving identifier).1

/-- A broker of accepted settings, over a store that works and has no counter for the id that is drawn; the message is
asked for before it expires. -/
structure Proper (environment : Settings.Environment) (shelf : σ → Shelf) (sound : σ → Prop)
    (talk : Conversation ρ σ) : Prop where
  accepted : Settings.ofEnvironment environment = .ok talk.settings
  opened : Broker.ofSettings talk.settings = .ok talk.broker
  addressed : talk.inboxes.1.isEmpty = false ∧ talk.inboxes.2.isEmpty = false
  lawful : talk.store.Lawful shelf
  working : talk.store.Working shelf sound
  well : sound talk.world.2
  unused (id envelope : String) (key : Bytes)
    (drawn : (Creation.draw talk.source talk.text talk.world.1).1 = .ok (id, envelope, key)) :
    (shelf talk.world.2).find? (Key.attempts id) = none
  fresh : talk.receivedAt < talk.savedAt + talk.broker.service.retention
  reached : (talk.receivedAt.after? talk.broker.service.retention).isSome

variable {talk : Conversation ρ σ} {environment : Settings.Environment} {shelf : σ → Shelf} {sound : σ → Prop}

theorem Proper.numbered (proper : talk.Proper environment shelf sound) :
    (talk.broker.dispatcher.run talk.past).Numbered :=
  (Dispatcher.numbered_ofCapacity (Broker.parts_ofSettings proper.opened).2).run talk.past

theorem Proper.saving_eq (proper : talk.Proper environment shelf sound)
    (ready : (talk.broker.dispatcher.run talk.past).Ready) :
    let answered :=
      Handler.save talk.broker.service talk.source talk.store talk.savedAt (Bytes.ofText talk.text) talk.world
    talk.saving = (some (Bytes.ofText (answered.result.toOption.getD Reply.internal)),
      ⟨((talk.broker.dispatcher.run talk.past).deliver ⟨.save, talk.inboxes.1, Bytes.ofText talk.text⟩).finish
        (talk.broker.dispatcher.run talk.past).delivered answered.result.toOption, answered.state⟩) :=
  Desk.ask_eq ready proper.numbered proper.addressed.1

/-- What holds once a message was created on request: it can be asked for, and lies in the store with its key. -/
structure Kept (shelf : σ → Shelf) (sound : σ → Prop) (talk : Conversation ρ σ) (identifier : Identifier String)
    (key : Bytes) : Prop where
  issued : identifier.Issued key
  ready : talk.saving.2.dispatcher.Ready
  numbered : talk.saving.2.dispatcher.Numbered
  well : sound talk.saving.2.world.2
  there : ∃ envelope, (shelf talk.saving.2.world.2).find? (Key.message identifier.messageId) =
      some ⟨envelope, some (talk.savedAt + talk.broker.service.retention)⟩ ∧
    Retrieval.reveal? envelope key = some talk.text
  untried : (shelf talk.saving.2.world.2).find? (Key.attempts identifier.messageId) = none

private theorem sound_create {service : Service} {source : RandomSource ρ} {store : KeyValueStore σ} {now : Instant}
    {text : String} {world : ρ × σ} (working : store.Working shelf sound) (well : sound world.2) :
    sound (service.create source store now text world).state.2 := by
  simp only [Service.create]
  cases (Creation.start service source text world.1).result with
  | ended result => exact well
  | storing id envelope key =>
    have later := (@working.put now (Key.message id) envelope service.retention world.2 well).2
    simp only [Creation.step]
    generalize store.put now (Key.message id) envelope service.retention world.2 = answer at later ⊢
    rcases answer with ⟨_ | _, next⟩ <;> exact later

theorem Proper.kept_of_created (proper : talk.Proper environment shelf sound)
    (ready : (talk.broker.dispatcher.run talk.past).Ready) {identifier : Identifier String}
    (created : (talk.broker.service.create talk.source talk.store talk.savedAt talk.text talk.world).result =
      .ok (.success identifier)) :
    talk.saved = .ok identifier.widen ∧ ∃ key, talk.Kept shelf sound identifier key := by
  obtain ⟨replied, state⟩ := Handler.save_created created
  obtain ⟨still, numbered⟩ : talk.saving.2.dispatcher.Ready ∧ talk.saving.2.dispatcher.Numbered :=
    Desk.ask_ready ready proper.numbered proper.addressed.1
  have asked := proper.saving_eq ready
  simp only [replied, state] at asked
  have kept : talk.saving.2.world =
      (talk.broker.service.create talk.source talk.store talk.savedAt talk.text talk.world).state := by rw [asked]
  constructor
  · rw [saved, asked]
    exact Client.saved_write identifier
  · obtain ⟨envelope, key, drawn, written, there, others⟩ := Service.create_deposits proper.lawful created
    have forms := Creation.draw_forms drawn
    refine ⟨key, ⟨forms.canonical, written, forms.sized⟩, still, numbered, ?_, ⟨envelope, ?_, forms.reveal?⟩, ?_⟩
    · rw [kept]
      exact sound_create proper.working proper.well
    · rw [kept]
      exact there
    · rw [kept]
      exact (others _ (Key.message_ne_attempts _ _).symm).trans (proper.unused _ envelope key drawn)

theorem Proper.created_of_saved (proper : talk.Proper environment shelf sound) {wide : Identifier WideText}
    (saved : talk.saved = .ok wide) :
    (talk.broker.dispatcher.run talk.past).Ready ∧
      ∃ identifier, (talk.broker.service.create talk.source talk.store talk.savedAt talk.text talk.world).result =
        .ok (.success identifier) := by
  cases replied : talk.saving.1 with
  | none =>
    rw [Conversation.saved, replied] at saved
    cases saved
  | some reply =>
    have ready := Desk.ready_of_ask proper.numbered replied
    refine ⟨ready, ?_⟩
    rcases Handler.save_cases talk.broker.service talk.source talk.store talk.savedAt (Bytes.ofText talk.text)
      talk.world with ⟨message, refused, _⟩ | ⟨text, decoded, _, ⟨message, refused⟩ | ⟨identifier, created, _⟩⟩
    · rw [Conversation.saved, proper.saving_eq ready, refused] at saved
      dsimp only [Except.toOption, Option.getD] at saved
      rw [Client.saved_error] at saved
      cases saved
    · rw [Conversation.saved, proper.saving_eq ready, refused, Client.saved_error] at saved
      cases saved
    · rw [Bytes.toText?_ofText] at decoded
      cases decoded
      exact ⟨identifier, created⟩

theorem Kept.received_eq {identifier : Identifier String} {key : Bytes} (kept : talk.Kept shelf sound identifier key)
    (proper : talk.Proper environment shelf sound) :
    talk.received identifier =
      if Identifier.requestSize ≤ talk.settings.maxMessageSize then .ok (.ofString talk.text)
      else .error (.refused (.ofString (sizeMessage talk.settings.maxMessageSize))) := by
  have bounded := Settings.ofFields_bounded proper.accepted
  obtain ⟨service, _⟩ := Broker.parts_ofSettings proper.opened
  obtain ⟨envelope, there, opens⟩ := kept.there
  have asked : (talk.receiving identifier).1 =
      some (Bytes.ofText ((Handler.receive talk.broker.service talk.store talk.receivedAt
        (Bytes.ofText identifier.write) talk.saving.2.world.2).result.toOption.getD Reply.internal)) :=
    congrArg Prod.fst (Desk.ask_eq kept.ready kept.numbered proper.addressed.2)
  obtain ⟨small, large⟩ := @Handler.receive_issued _ talk.broker.service talk.store talk.receivedAt identifier key
    kept.issued talk.saving.2.world.2
  rw [received, asked]
  have size : talk.broker.service.maxSize = talk.settings.maxMessageSize := by rw [service]
  have tries : talk.broker.service.maxTries = talk.settings.maxTries := by rw [service]
  by_cases fits : Identifier.requestSize ≤ talk.settings.maxMessageSize
  · rw [if_pos fits]
    have live : (shelf talk.saving.2.world.2).live? talk.receivedAt (Key.message identifier.messageId) =
        some ⟨envelope, some (talk.savedAt + talk.broker.service.retention)⟩ :=
      Shelf.live?_eq_some.mpr ⟨there, decide_eq_true proper.fresh⟩
    have untried : (shelf talk.saving.2.world.2).live? talk.receivedAt (Key.attempts identifier.messageId) = none := by
      rw [Shelf.live?, kept.untried]
      rfl
    have retrieved := Service.retrieve_first proper.lawful proper.working kept.well kept.issued.accepted
      (tries ▸ bounded.maxTries) proper.reached untried live opens
    rw [large (size ▸ fits) talk.text retrieved]
    exact Client.received_quote talk.text
  · rw [if_neg fits, small (size ▸ Int.not_le.mp fits), size]
    exact Client.received_error _

/-- What was saved can be received with the identifier that came back, just where a request to receive is not too
large. -/
theorem received_saved (proper : talk.Proper environment shelf sound) {wide : Identifier WideText}
    (saved : talk.saved = .ok wide) :
    ∃ identifier : Identifier String, wide = identifier.widen ∧
      talk.received identifier =
        if Identifier.requestSize ≤ talk.settings.maxMessageSize then .ok (.ofString talk.text)
        else .error (.refused (.ofString (sizeMessage talk.settings.maxMessageSize))) := by
  obtain ⟨ready, identifier, created⟩ := proper.created_of_saved saved
  obtain ⟨same, key, kept⟩ := proper.kept_of_created ready created
  rw [saved] at same
  cases same
  exact ⟨identifier, rfl, kept.received_eq proper⟩

/-- A short secret under a limit on sizes, saved after a request that made no sense. -/
def secret (limit : Int) : Conversation Nat Backend where
  settings := { Settings.default with maxMessageSize := limit }
  broker := ⟨{ Settings.default with maxMessageSize := limit }, ⟨7 * Duration.day, 3, limit⟩,
    ⟨32, 32, 0, [], [], [], [], none⟩, [], false⟩
  past := [.deliver ⟨.receive, "_INBOX.0", []⟩, .finish 0 (some (Reply.error "Message identifier cannot be empty"))]
  source := ⟨fun length count => (.bytes (List.replicate length (UInt8.ofNat count)), count + 1)⟩
  store := Backend.interface
  world := (0, .memory .empty)
  text := "hello"
  savedAt := 0
  receivedAt := 1
  inboxes := ("_INBOX.1", "_INBOX.2")

private theorem secret_proper {environment : Settings.Environment} {limit : Int}
    (accepted : Settings.ofEnvironment environment = .ok (secret limit).settings) :
    (secret limit).Proper environment Backend.shelf Backend.Steady where
  accepted := accepted
  opened := rfl
  addressed := ⟨rfl, rfl⟩
  lawful := Backend.lawful
  working := Backend.working
  well := trivial
  unused _ _ _ _ := rfl
  fresh := show (1 : Int) < 0 + 7 * Duration.day by decide
  reached := show (Instant.after? 1 (7 * Duration.day)).isSome by decide

private theorem secret_ready (limit : Int) : ((secret limit).broker.dispatcher.run (secret limit).past).Ready where
  free := show 32 ≠ 0 by decide
  parked := rfl
  granted := rfl

private theorem secret_created {limit : Int} (enough : limit = 64 ∨ limit = 108) :
    ∃ identifier,
      ((secret limit).broker.service.create (secret limit).source (secret limit).store (secret limit).savedAt
        (secret limit).text (secret limit).world).result = .ok (.success identifier) := by
  rcases enough with rfl | rfl
  · exact ⟨⟨Id.ofBytes (List.replicate 16 0), Base64.encode (List.replicate 32 1)⟩, rfl⟩
  · exact ⟨⟨Id.ofBytes (List.replicate 16 0), Base64.encode (List.replicate 32 1)⟩, rfl⟩

/-- At the smallest limit that lets requests to receive pass, the secret comes back. -/
theorem received_saved_smallest :
    let talk := secret 108
    talk.Proper [("MAX_MESSAGE_SIZE", "108")] Backend.shelf Backend.Steady ∧
      ∃ wide, talk.saved = .ok wide ∧ ∃ identifier : Identifier String, wide = identifier.widen ∧
        talk.received identifier =
          if Identifier.requestSize ≤ talk.settings.maxMessageSize then .ok (.ofString talk.text)
          else .error (.refused (.ofString (sizeMessage talk.settings.maxMessageSize))) := by
  intro talk
  have proper : talk.Proper [("MAX_MESSAGE_SIZE", "108")] Backend.shelf Backend.Steady := secret_proper rfl
  obtain ⟨identifier, created⟩ := secret_created (.inr rfl)
  obtain ⟨saved, _⟩ := proper.kept_of_created (secret_ready 108) created
  exact ⟨proper, identifier.widen, saved, received_saved proper saved⟩

/-- Under a smaller limit secrets are saved that no request to receive can ask for. -/
theorem not_received_saved_small :
    let talk := secret 64
    talk.Proper [("MAX_MESSAGE_SIZE", "64")] Backend.shelf Backend.Steady ∧
      ∃ identifier : Identifier String, talk.saved = .ok identifier.widen ∧
        talk.received identifier ≠ .ok (.ofString talk.text) := by
  intro talk
  have proper : talk.Proper [("MAX_MESSAGE_SIZE", "64")] Backend.shelf Backend.Steady := secret_proper rfl
  obtain ⟨identifier, created⟩ := secret_created (.inl rfl)
  obtain ⟨saved, key, kept⟩ := proper.kept_of_created (secret_ready 64) created
  refine ⟨proper, identifier, saved, ?_⟩
  have small : ¬ Identifier.requestSize ≤ talk.settings.maxMessageSize := show ¬ (108 : Int) ≤ 64 by decide
  rw [kept.received_eq proper, if_neg small]
  nofun

end Conversation
end ReadOnce
