import ReadOnce.Client
import ReadOnce.Settings.Environment

/-!
A demonstration: a text is saved, read once, and asked for a second time. It ends early if the first two
requests are refused; a refusal of the third is what it is meant to show.
-/
namespace ReadOnce.Demonstration

open Message

/-- The text that the arguments give. -/
def textOf (arguments : List String) : String :=
  let joined := " ".intercalate arguments
  if joined.isEmpty then "Super secret message!" else joined

/-- The address of the bus; an empty one is taken as it is. -/
def url (environment : Settings.Environment) : String :=
  (environment.lookup "NATS_URL").getD Settings.default.natsUrl

/-- What is printed, line by line, and what went wrong. -/
structure Report where
  lines : List WideText
  fault : Option Client.Fault

def Report.output (report : Report) : WideText := report.lines.flatMap (· ++ [.char '\n'])

private def line (start : String) (rest : WideText) : WideText := .ofString start ++ rest

variable {σ : Type}

/-- Runs the demonstration over two requests, each of which may change the state. -/
def run (save : String → σ → Except Client.Fault (Identifier WideText) × σ)
    (receive : Identifier WideText → σ → Except Client.Fault WideText × σ) (text : String) (state : σ) :
    Report × σ :=
  match save text state with
  | (.error fault, state) => (⟨[], some fault⟩, state)
  | (.ok identifier, state) =>
    let stored := line "Stored " identifier.messageId
    match receive identifier state with
    | (.error fault, state) => (⟨[stored], some fault⟩, state)
    | (.ok text, state) =>
      let once := line "Read once: " text
      match receive identifier state with
      | (.ok _, state) => (⟨[stored, once], none⟩, state)
      | (.error (.refused message), state) =>
        (⟨[stored, once, line "Second read refused: " message], none⟩, state)
      | (.error fault, state) => (⟨[stored, once], some fault⟩, state)

end ReadOnce.Demonstration
