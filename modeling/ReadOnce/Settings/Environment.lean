import ReadOnce.Settings.Fields

/-!
Settings from the environment. Several names may stand for one setting, the first with a value counting; a
variable with an empty value is passed over. The address of the database can be given in parts.
-/
namespace ReadOnce.Settings

open Validation

/-- Variables by name. -/
abbrev Environment := List (String × String)

namespace Environment

/-- The value of the first of several names that has one. -/
def pick? (environment : Environment) (names : List String) : Option String :=
  names.findSome? fun name => (environment.lookup name).filter (!·.isEmpty)

/-- The parts of the address of a database. -/
structure Address where
  user : String
  password : String
  host : String
  port : String
  database : String
deriving DecidableEq, Repr

def Address.url (address : Address) : String :=
  "postgresql://" ++ address.user ++ ":" ++ address.password ++ "@" ++ address.host ++ ":" ++ address.port ++
    "/" ++ address.database

/-- The address in parts, if its host is given; only the host is passed over where it is empty. -/
def address? (environment : Environment) : Option Address :=
  let part (name otherwise : String) : String := (environment.lookup name).getD otherwise
  (environment.pick? ["DB_HOST"]).map fun host =>
    { user := part "DB_USER" "secretbroker"
      password := part "DB_PASS" ""
      host
      port := part "DB_PORT" "5432"
      database := part "DB_NAME" "secretbroker" }

/-- The names of the variables of each setting. -/
def names : List (String × List String) :=
  [("auto_delete_days", ["AUTO_DELETE_DAYS", "AutoDeleteDays"]),
    ("max_tries", ["MAX_TRIES", "MaxTries"]),
    ("max_message_size", ["MAX_MESSAGE_SIZE", "MaxMessageSize"]),
    ("password_length", ["PASSWORD_LENGTH", "PasswordLength"]),
    ("nats_url", ["NATS_URL"]),
    ("nats_user", ["NATS_USER"]),
    ("nats_password", ["NATS_PASS"]),
    ("max_in_flight", ["MAX_IN_FLIGHT"]),
    ("store_backend", ["STORE_BACKEND"]),
    ("redis_host", ["REDIS_HOST"]),
    ("redis_port", ["REDIS_PORT"]),
    ("redis_password", ["REDIS_PASSWORD"]),
    ("store_timeout", ["STORE_TIMEOUT", "REDIS_TIMEOUT"]),
    ("database_url", ["DATABASE_URL"]),
    ("http_host", ["HTTP_HOST"]),
    ("http_port", ["HTTP_PORT", "SERVER_PORT"]),
    ("log_level", ["LOG_LEVEL"])]

/-- The names of all variables that count, those for the parts of an address last. -/
def allNames : List String :=
  names.flatMap (·.2) ++ ["DB_HOST", "DB_USER", "DB_PASS", "DB_PORT", "DB_NAME"]

/-- The text that the environment gives for a setting. -/
def value? (environment : Environment) (setting : String) (aliases : List String) : Option String :=
  match environment.pick? aliases with
  | some value => some value
  | none => if setting = "database_url" then environment.address?.map (·.url) else none

def fields (environment : Environment) : Fields :=
  names.filterMap fun (setting, aliases) =>
    (environment.value? setting aliases).map fun value => (setting, .text value)

end Environment

/-- The settings that an environment gives. -/
def ofEnvironment (environment : Environment) : Checked Settings := ofFields environment.fields

end ReadOnce.Settings
