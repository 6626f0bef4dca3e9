import ReadOnce.Broker.Dispatcher

/-!
The broker from start to stop: it subscribes to both subjects when it starts; when it stops it gives up what it
subscribed to, waits for the requests that are running, and drains the connection if there is one.
-/
namespace ReadOnce

namespace Broker

/-- How a connection to the bus is asked for. Credentials are used only where both parts are given. -/
structure Connection where
  name : String
  servers : List String
  credentials : Option (String × String)
deriving DecidableEq, Repr

def Connection.ofSettings (settings : Settings) : Connection :=
  ⟨"secretbroker", [settings.natsUrl], settings.credentials?⟩

/-- What the broker asks of the bus. -/
inductive BusCall where
  | subscribe (subject : Subject)
  | unsubscribe (subject : Subject)
  | drain
deriving DecidableEq, Repr

end Broker

open Broker in
/-- A broker, with the subjects it is subscribed to and whether it has a connection. -/
structure Broker where
  settings : Settings
  service : Message.Service
  dispatcher : Dispatcher
  subscribed : List Subject
  connected : Bool

namespace Broker

/-- Why there is no broker for some settings. -/
inductive SetupFault where
  | retention (fault : Duration.DaysFault)
  | slots (fault : SlotFault)

def SetupFault.message : SetupFault → String
  | retention fault => fault.message
  | slots fault => fault.message

def ofSettings (settings : Settings) : Except SetupFault Broker := do
  let service ← (Message.Service.ofSettings settings).mapError .retention
  let dispatcher ← (Dispatcher.ofCapacity settings.maxInFlight).mapError .slots
  return ⟨settings, service, dispatcher, [], false⟩

/-- The broker started, with what it asks of the bus. -/
def start (broker : Broker) : Message.Run Broker (List BusCall) :=
  let settings := broker.settings
  ⟨Subject.all.map .subscribe,
    { broker with
      dispatcher := { broker.dispatcher with awaited := none }
      subscribed := Subject.all
      connected := true },
    [⟨.info, .dispatcher, "Subscribed to " ++ Subject.save.name ++ " and " ++ Subject.receive.name⟩,
      ⟨.info, .broker, "Broker ready (store=" ++ settings.storeKind.name ++ ", max_tries=" ++
        toString settings.maxTries ++ ", auto_delete_days=" ++ toString settings.autoDeleteDays ++ ")"⟩]⟩

/-- The broker stopped, with what it asks of the bus. -/
def stop (broker : Broker) : Message.Run Broker (List BusCall) :=
  ⟨broker.subscribed.map .unsubscribe ++ (if broker.connected then [.drain] else []),
    { broker with dispatcher := broker.dispatcher.stop, subscribed := [], connected := false },
    [⟨.info, .broker, "Broker stopped"⟩]⟩

end Broker
end ReadOnce
