import ReadOnce.Broker.Lifetime
import ReadOnce.Settings.Environment

/-!
What can be relied on once settings were accepted: each was read from its field, and their numbers are within bounds,
so that there is a broker for them wherever the calendar has the time when its messages expire.
-/
namespace ReadOnce

namespace Settings

open Validation

/-- Each setting is what the field of its name gives, or the default where there is none. -/
structure ReadFrom (fields : Fields) (settings : Settings) : Prop where
  autoDeleteDays : field fields "auto_delete_days" default.autoDeleteDays (integerFrom 0) = .ok settings.autoDeleteDays
  maxTries : field fields "max_tries" default.maxTries (integerFrom 1) = .ok settings.maxTries
  maxMessageSize : field fields "max_message_size" default.maxMessageSize (integerFrom 1) = .ok settings.maxMessageSize
  passwordLength : field fields "password_length" default.passwordLength (integerFrom 1) = .ok settings.passwordLength
  natsUrl : field fields "nats_url" default.natsUrl Value.text = .ok settings.natsUrl
  natsUser : field fields "nats_user" default.natsUser Value.optionalText = .ok settings.natsUser
  natsPassword : field fields "nats_password" default.natsPassword Value.optionalText = .ok settings.natsPassword
  maxInFlight : field fields "max_in_flight" default.maxInFlight (integerFrom 1) = .ok settings.maxInFlight
  storeKind : field fields "store_backend" default.storeKind storeNamed = .ok settings.storeKind
  redisHost : field fields "redis_host" default.redisHost Value.text = .ok settings.redisHost
  redisPort : field fields "redis_port" default.redisPort Value.integer = .ok settings.redisPort
  redisPassword : field fields "redis_password" default.redisPassword Value.optionalText = .ok settings.redisPassword
  storeTimeout : field fields "store_timeout" default.storeTimeout positive = .ok settings.storeTimeout
  databaseUrl : field fields "database_url" default.databaseUrl Value.text = .ok settings.databaseUrl
  httpHost : field fields "http_host" default.httpHost Value.text = .ok settings.httpHost
  httpPort : field fields "http_port" default.httpPort Value.integer = .ok settings.httpPort
  logLevel : field fields "log_level" default.logLevel Value.text = .ok settings.logLevel

theorem ofFields_eq_ok_iff {fields : Fields} {settings : Settings} :
    ofFields fields = .ok settings ↔ ReadFrom fields settings := by
  constructor
  · intro accepted
    unfold ofFields at accepted
    -- the fields are taken off from the last to the first
    repeat
      rw [Checked.and_eq_ok_iff] at accepted
      obtain ⟨_, _, accepted, _, rfl⟩ := accepted
    cases accepted
    constructor <;> assumption
  · intro given
    simp only [ofFields, given.autoDeleteDays, given.maxTries, given.maxMessageSize, given.passwordLength,
      given.natsUrl, given.natsUser, given.natsPassword, given.maxInFlight, given.storeKind, given.redisHost,
      given.redisPort, given.redisPassword, given.storeTimeout, given.databaseUrl, given.httpHost, given.httpPort,
      given.logLevel]
    rfl

/-- What holds of the default and of everything that can be read holds of a field. -/
theorem field_holds {α : Type} {holds : α → Prop} {fields : Fields} {name : String} {otherwise result : α}
    {read : Json → Except Reason α} (default : holds otherwise)
    (each : ∀ {value result}, read value = .ok result → holds result)
    (given : field fields name otherwise read = .ok result) : holds result := by
  unfold field at given
  split at given
  · cases given
    exact default
  · split at given
    · next found =>
      cases given
      exact each found
    · cases given

/-- The bounds that the numbers among the settings keep to. -/
structure Bounded (settings : Settings) : Prop where
  autoDeleteDays : 0 ≤ settings.autoDeleteDays
  maxTries : 1 ≤ settings.maxTries
  maxMessageSize : 1 ≤ settings.maxMessageSize
  passwordLength : 1 ≤ settings.passwordLength
  maxInFlight : 1 ≤ settings.maxInFlight

theorem integerFrom_ge {bound number : Int} {value : Json} (read : integerFrom bound value = .ok number) :
    bound ≤ number := by
  simp only [integerFrom, bind, Except.bind] at read
  split at read
  · cases read
  · split at read
    · cases read
    · next within =>
      cases read
      exact Int.not_lt.mp within

theorem positive_gt {number : Float} {value : Json} (read : positive value = .ok number) : number > 0.0 := by
  simp only [positive, bind, Except.bind] at read
  split at read
  · cases read
  · split at read
    · next above =>
      cases read
      exact above
    · cases read

theorem ofFields_bounded {fields : Fields} {settings : Settings} (accepted : ofFields fields = .ok settings) :
    settings.Bounded := by
  have given := ofFields_eq_ok_iff.mp accepted
  have bounded {bound otherwise number : Int} {name : String} (default : bound ≤ otherwise)
      (read : field fields name otherwise (integerFrom bound) = .ok number) : bound ≤ number :=
    field_holds default integerFrom_ge read
  exact ⟨bounded (by decide) given.autoDeleteDays, bounded (by decide) given.maxTries,
    bounded (by decide) given.maxMessageSize, bounded (by decide) given.passwordLength,
    bounded (by decide) given.maxInFlight⟩

theorem storeTimeout_gt {fields : Fields} {settings : Settings} (accepted : ofFields fields = .ok settings) :
    settings.storeTimeout > 0.0 := by
  have fallback : default.storeTimeout > 0.0 := by decide
  have above {number : Float} :
      field fields "store_timeout" default.storeTimeout positive = .ok number → number > 0.0 :=
    field_holds fallback positive_gt
  exact above (ofFields_eq_ok_iff.mp accepted).storeTimeout

end Settings

namespace Broker

theorem parts_ofSettings {settings : Settings} {broker : Broker} (opened : ofSettings settings = .ok broker) :
    broker.service = ⟨settings.autoDeleteDays * Duration.day, settings.maxTries, settings.maxMessageSize⟩ ∧
      Dispatcher.ofCapacity settings.maxInFlight = .ok broker.dispatcher := by
  simp only [ofSettings, Message.Service.ofSettings, Message.Service.configure, Duration.ofDays] at opened
  split at opened
  · cases dispatcher : Dispatcher.ofCapacity settings.maxInFlight with
    | error fault =>
      rw [dispatcher] at opened
      cases opened
    | ok made =>
      rw [dispatcher] at opened
      cases opened
      exact ⟨rfl, rfl⟩
  · cases opened

end Broker
end ReadOnce
