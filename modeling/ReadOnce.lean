import ReadOnce.Base64
import ReadOnce.Blocks
import ReadOnce.Broker.Dispatcher
import ReadOnce.Broker.Handler
import ReadOnce.Broker.Lifetime
import ReadOnce.Broker.Reply
import ReadOnce.Bytes
import ReadOnce.Cipher.Block
import ReadOnce.Cipher.Chaining
import ReadOnce.Cipher.Field
import ReadOnce.Cipher.Schedule
import ReadOnce.Client
import ReadOnce.CommandLine
import ReadOnce.Decimal.Layout
import ReadOnce.Decimal.Reading
import ReadOnce.Decimal.Shortest
import ReadOnce.Decimal.Whole
import ReadOnce.Demonstration
import ReadOnce.Digest.KeyDerivation
import ReadOnce.Digest.Sha256
import ReadOnce.Envelope
import ReadOnce.Json.Basic
import ReadOnce.Json.Display
import ReadOnce.Json.Printer
import ReadOnce.Json.Reader
import ReadOnce.Json.Token
import ReadOnce.Log
import ReadOnce.Log.Setup
import ReadOnce.Main
import ReadOnce.Message.Check
import ReadOnce.Message.Id
import ReadOnce.Message.Identifier
import ReadOnce.Message.Outcome
import ReadOnce.Message.Service
import ReadOnce.Passphrase
import ReadOnce.Program
import ReadOnce.Randomness
import ReadOnce.Rehearsal.Bus
import ReadOnce.Rehearsal.Connection
import ReadOnce.Rehearsal.Database
import ReadOnce.Rehearsal.Pressure
import ReadOnce.Rehearsal.Randomness
import ReadOnce.Rehearsal.Store
import ReadOnce.Settings.Basic
import ReadOnce.Settings.Environment
import ReadOnce.Settings.Fields
import ReadOnce.Settings.Value
import ReadOnce.Status
import ReadOnce.Status.Path
import ReadOnce.Store.Address
import ReadOnce.Store.Backend
import ReadOnce.Store.Interface
import ReadOnce.Store.Memory
import ReadOnce.Store.Opening
import ReadOnce.Store.Preparation
import ReadOnce.Store.Remote
import ReadOnce.Store.Shelf
import ReadOnce.Store.Table
import ReadOnce.Store.Time
import ReadOnce.Text.Blank
import ReadOnce.Text.Digit
import ReadOnce.Text.Encoding
import ReadOnce.Text.Hex
import ReadOnce.Text.Numeral
import ReadOnce.Text.Percent
import ReadOnce.Text.Printable
import ReadOnce.Text.Quoted
import ReadOnce.Text.Similarity
import ReadOnce.Text.UpperCase
import ReadOnce.Text.Wide
import ReadOnce.Text.Word
import ReadOnce.Validation
import ReadOnce.Proofs.Cipher.Chaining
import ReadOnce.Proofs.Base64
import ReadOnce.Proofs.Envelope
import ReadOnce.Proofs.Numeral
import ReadOnce.Proofs.Store.Calls
import ReadOnce.Proofs.Store.Agreement
import ReadOnce.Proofs.Store.Interruption
import ReadOnce.Proofs.Traffic
import ReadOnce.Proofs.Delivery
import ReadOnce.Proofs.Budget
import ReadOnce.Proofs.Sequence
import ReadOnce.Proofs.Lifecycle
import ReadOnce.Proofs.Retrieval
import ReadOnce.Proofs.Json
import ReadOnce.Proofs.Wire
import ReadOnce.Proofs.Identifier
import ReadOnce.Proofs.Settings
import ReadOnce.Proofs.Conversation
import ReadOnce.Proofs.Integrity
import ReadOnce.Proofs.Json.Form
import ReadOnce.Proofs.Json.Lexing
import ReadOnce.Proofs.Json.Reading
import ReadOnce.Proofs.Json.Printing
import ReadOnce.Proofs.Reply
import ReadOnce.Proofs.Request
import ReadOnce.Proofs.Store.Locality
import ReadOnce.Proofs.Dialogue
import ReadOnce.Proofs.Independence
import ReadOnce.Proofs.Store.Veil
import ReadOnce.Proofs.Secrecy
import ReadOnce.Proofs.Cipher.Permutation
import ReadOnce.Proofs.Unlocking
import ReadOnce.Proofs.Slots
import ReadOnce.Proofs.Serving
import ReadOnce.Proofs.Outcomes
import ReadOnce.Proofs.Base64.Reading
import ReadOnce.Proofs.Presentation
import ReadOnce.Proofs.Atomicity
import ReadOnce.Proofs.Saving
import ReadOnce.Proofs.Store.Server
import ReadOnce.Proofs.Purge
import ReadOnce.Proofs.Settings.Environment
import ReadOnce.Proofs.Settings.Address
import ReadOnce.Proofs.Store.Opening
import ReadOnce.Proofs.Identifier.Collision
