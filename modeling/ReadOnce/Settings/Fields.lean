import ReadOnce.Settings.Basic
import ReadOnce.Settings.Value

/-! Settings from fields by name. A field that is left out has its default; unknown fields are ignored. -/
namespace ReadOnce.Settings

open Validation

/-- The fields given, by name. -/
abbrev Fields := List (String × Json)

variable {α : Type}

/-- The value of a field, read and then held to a rule. -/
def field (fields : Fields) (name : String) (otherwise : α) (read : Json → Except Reason α) :
    Checked α :=
  match fields.lookup name with
  | none => .ok otherwise
  | some value =>
    match read value with
    | .ok value => .ok value
    | .error reason => .error [⟨some name, reason⟩]

def integerFrom (bound : Int) (value : Json) : Except Reason Int := do
  let number ← Value.integer value
  if number < bound then throw (.atLeast bound)
  pure number

def positive (value : Json) : Except Reason Float := do
  let number ← Value.number value
  if number > 0.0 then pure number else throw .positive

/-- The store of a name, blanks around it and the case of its letters put aside. Lowering ASCII
letters is enough: no other letter has a lower-case form made of letters of these names. -/
def storeKind? (name : String) : Option StoreKind :=
  let plain := (Text.strip name).toLower
  StoreKind.all.find? (·.name = plain)

def storeNamed (value : Json) : Except Reason StoreKind := do
  match storeKind? (← Value.text value) with
  | some kind => pure kind
  | none => throw .backend

def ofFields (fields : Fields) : Checked Settings :=
  let plain := Settings.default
  Checked.of Settings.mk
    |>.and (field fields "auto_delete_days" plain.autoDeleteDays (integerFrom 0))
    |>.and (field fields "max_tries" plain.maxTries (integerFrom 1))
    |>.and (field fields "max_message_size" plain.maxMessageSize (integerFrom 1))
    |>.and (field fields "password_length" plain.passwordLength (integerFrom 1))
    |>.and (field fields "nats_url" plain.natsUrl Value.text)
    |>.and (field fields "nats_user" plain.natsUser Value.optionalText)
    |>.and (field fields "nats_password" plain.natsPassword Value.optionalText)
    |>.and (field fields "max_in_flight" plain.maxInFlight (integerFrom 1))
    |>.and (field fields "store_backend" plain.storeKind storeNamed)
    |>.and (field fields "redis_host" plain.redisHost Value.text)
    |>.and (field fields "redis_port" plain.redisPort Value.integer)
    |>.and (field fields "redis_password" plain.redisPassword Value.optionalText)
    |>.and (field fields "store_timeout" plain.storeTimeout positive)
    |>.and (field fields "database_url" plain.databaseUrl Value.text)
    |>.and (field fields "http_host" plain.httpHost Value.text)
    |>.and (field fields "http_port" plain.httpPort Value.integer)
    |>.and (field fields "log_level" plain.logLevel Value.text)

end ReadOnce.Settings
