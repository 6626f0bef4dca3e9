import ReadOnce.Broker.Reply
import ReadOnce.Client
import ReadOnce.Proofs.Json.Printing

/-!
Documents on the wire: an identifier reads back as itself on either side of the bus, and the replies of the broker mean
to the client what they were written for.
-/
namespace ReadOnce

theorem Message.Identifier.toList_write (identifier : Message.Identifier String) :
    identifier.write.toList =
      "\x7b\"messageId\":".toList ++ ((Json.quote identifier.messageId).toList ++
        (",\"aesKey\":".toList ++ ((Json.quote identifier.aesKey).toList ++ "\x7d".toList))) := by
  -- unfolded by hand, as the equation of the definition is slow to prove
  show ("\x7b\"messageId\":" ++ Json.quote identifier.messageId ++ ",\"aesKey\":" ++ Json.quote identifier.aesKey ++
    "\x7d").toList = _
  simp only [String.toList_append, List.append_assoc]

theorem Broker.Reply.toList_error (message : String) :
    (Broker.Reply.error message).toList =
      "\x7b\"error\":".toList ++ ((Json.quote message).toList ++ "\x7d".toList) := by
  rw [Broker.Reply.error, String.toList_append, String.toList_append, List.append_assoc]

namespace Json

variable {limits : Limits}

theorem read_error (levels : 1 ≤ limits.levels) (message : String) :
    read limits (.ofString (Broker.Reply.error message)) = .ok (.obj [(.ofString "error", text message)]) := by
  obtain ⟨heading, headed, named⟩ := Heading.exists_print "error"
  obtain ⟨phrase, printed, means⟩ := Phrase.exists_print message
  let document : Document := ⟨.none, .object heading .none (.text phrase) .none .none, .none⟩
  have same : document.text = Broker.Reply.error message := by
    have written : document.text.toList = '\x7b' :: (heading.chars ++ (phrase.chars ++ ['\x7d'])) := by
      simp [document, Document.text, Form.chars, Members.chars, Blanks.none]
    rw [← String.toList_inj, written, headed, printed, Broker.Reply.toList_error, List.append_assoc]
    rfl
  have fits : document.Fits limits := ⟨levels, trivial, trivial⟩
  rw [← same, Document.read_text fits, ← named, ← means]
  rfl

theorem read_identifier (levels : 1 ≤ limits.levels) (identifier : Message.Identifier String) :
    read limits (.ofString identifier.write) = .ok identifier.widen.toJson := by
  obtain ⟨first, headed, named⟩ := Heading.exists_print "messageId"
  obtain ⟨second, titled, called⟩ := Heading.exists_print "aesKey"
  obtain ⟨id, printed, means⟩ := Phrase.exists_print identifier.messageId
  obtain ⟨key, shown, opens⟩ := Phrase.exists_print identifier.aesKey
  let document : Document :=
    ⟨.none, .object first .none (.text id) .none (.member second .none (.text key) .none .none), .none⟩
  have same : document.text = identifier.write := by
    have written : document.text.toList =
        '\x7b' :: (first.chars ++ (id.chars ++ ',' :: (second.chars ++ (key.chars ++ ['\x7d'])))) := by
      simp [document, Document.text, Form.chars, Members.chars, Blanks.none]
    rw [← String.toList_inj, written, headed, printed, titled, shown, identifier.toList_write, List.append_assoc,
      List.append_assoc]
    rfl
  have fits : document.Fits limits := ⟨levels, trivial, trivial, trivial⟩
  have whole : identifier.widen.toJson =
      .obj [(.ofString first.name.text, text id.text), (.ofString second.name.text, text key.text)] := by
    rw [named, called, means, opens]
    rfl
  rw [← same, Document.read_text fits, whole]
  rfl

end Json

namespace Client

open Message

private theorem payload_ofText {document : String} {first : Char} {rest : List Char} {value : Json}
    (begins : document.toList = first :: rest) (ascii : first.toNat < 0x80)
    (visible : document.toList.all Text.isVisible = true) (reads : Json.read limits (.ofString document) = .ok value) :
    payload (some (Bytes.ofText document)) =
      match value.field? "error" with
      | some error => .error (.refused error.display)
      | none => .ok value := by
  simp only [payload, Text.decode?_ofText begins ascii visible, reads]
  cases value.field? "error" <;> rfl

theorem payload_quote (text : String) :
    payload (some (Bytes.ofText (Json.quote text))) = .ok (.str (.ofString text)) := by
  have begins : (Json.quote text).toList = '"' :: (text.toList.flatMap Json.escape ++ ['"']) := String.toList_ofList
  exact payload_ofText begins (by decide) (Json.visible_quote text) (Json.read_quote limits text)

theorem received_quote (text : String) : received (some (Bytes.ofText (Json.quote text))) = .ok (.ofString text) := by
  rw [received, payload_quote]
  rfl

theorem payload_error (message : String) :
    payload (some (Bytes.ofText (Broker.Reply.error message))) = .error (.refused (.ofString message)) := by
  have visible : (Broker.Reply.error message).toList.all Text.isVisible = true := by
    rw [Broker.Reply.toList_error, List.all_append, List.all_append, Json.visible_quote]
    rfl
  exact payload_ofText (Broker.Reply.toList_error message) (by decide) visible (Json.read_error (by decide) message)

theorem saved_error (message : String) :
    saved (some (Bytes.ofText (Broker.Reply.error message))) = .error (.refused (.ofString message)) := by
  rw [saved, payload_error]
  rfl

theorem received_error (message : String) :
    received (some (Bytes.ofText (Broker.Reply.error message))) = .error (.refused (.ofString message)) := by
  rw [received, payload_error]
  rfl

theorem payload_write (identifier : Identifier String) :
    payload (some (Bytes.ofText identifier.write)) = .ok identifier.widen.toJson := by
  have visible : identifier.write.toList.all Text.isVisible = true := by
    simp only [Identifier.toList_write, List.all_append, Json.visible_quote]
    rfl
  exact payload_ofText identifier.toList_write (by decide) visible (Json.read_identifier (by decide) identifier)

theorem saved_write (identifier : Identifier String) :
    saved (some (Bytes.ofText identifier.write)) = .ok identifier.widen := by
  rw [saved, payload_write]
  rfl

end Client

namespace Message.Identifier

theorem read_write (identifier : Identifier String) : read (Bytes.ofText identifier.write) = .ok identifier := by
  have document := Json.read_identifier (show 1 ≤ limits.levels by decide) identifier
  have whole : ofJson .object identifier.widen.toJson = .ok identifier.widen := rfl
  have narrow : identifier.widen.narrow? = some identifier := by
    simp only [narrow?, widen, WideText.toString?_ofString]
    rfl
  simp only [read, Bytes.toText?_ofText, document, whole, bind, Except.bind, narrow]
  rfl

/-- What is written tells identifiers apart. -/
theorem write_inj {identifier other : Identifier String} : identifier.write = other.write ↔ identifier = other := by
  refine ⟨fun same => ?_, congrArg write⟩
  have reading := read_write identifier
  rw [same, read_write] at reading
  exact (Except.ok.inj reading).symm

end Message.Identifier
end ReadOnce
