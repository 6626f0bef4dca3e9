/-! Records of what the broker does. They name messages by id and never hold a text or a key. -/
namespace ReadOnce

namespace Log

inductive Level where
  | debug
  | info
  | warning
  | error
  | critical
deriving DecidableEq, Repr

def Level.name : Level → String
  | debug => "DEBUG"
  | info => "INFO"
  | warning => "WARNING"
  | error => "ERROR"
  | critical => "CRITICAL"

/-- The place of a level among all, on which records are let through or not. -/
def Level.rank : Level → Nat
  | debug => 10
  | info => 20
  | warning => 30
  | error => 40
  | critical => 50

/-- The part of the broker that speaks. -/
inductive Component where
  | engine
  | dispatcher
  | broker
  | database
  | remoteStore
  | program
deriving DecidableEq, Repr

def Component.name : Component → String
  | engine => "secretbroker.core.message"
  | dispatcher => "secretbroker.services.dispatcher"
  | broker => "secretbroker.services.broker"
  | database => "secretbroker.infra.postgres"
  | remoteStore => "secretbroker.infra.redis_store"
  | program => "secretbroker.main"

structure Record where
  level : Level
  component : Component
  message : String
deriving DecidableEq, Repr

/-- A record on a line of its own, without the time. -/
def Record.line (record : Record) : String :=
  record.level.name ++ " " ++ record.component.name ++ ": " ++ record.message

end Log

abbrev Log := List Log.Record

end ReadOnce
