import ReadOnce.Decimal.Whole
import ReadOnce.Settings.Basic

/-!
How the store that settings name is opened. A database within the process is used over one connection, any
other over a pool of them, and a connection to it is waited for whole seconds only.
-/
namespace ReadOnce.Store

/-- Connections to a database server, kept for use. -/
structure Pool where
  /-- How many are kept, and how many more there may be for a time. -/
  size : Nat
  overflow : Nat
  /-- Seconds after which a connection is made anew. -/
  renewal : Nat
  /-- Whether a connection is tried each time before it is used. -/
  tried : Bool
  /-- Whether statements are shown. -/
  shown : Bool
  /-- Seconds to wait for a connection of the pool. -/
  patience : Float
  /-- Seconds to wait for a new connection. -/
  connectSeconds : Int

inductive DatabaseAccess where
  /-- One connection that all threads share. -/
  | single
  | pooled (pool : Pool)

namespace DatabaseAccess

/-- Whether an address is that of a database within the process. -/
def isEmbedded (url : String) : Bool := "sqlite".toList.isPrefixOf url.toList

/-- Seconds to wait where settings do not say. -/
def patience : Float := 5.0

def ofUrl (url : String) (patience : Float) : Except Decimal.WholeFault DatabaseAccess :=
  if isEmbedded url then .ok single
  else
    (Decimal.whole patience).map fun connectSeconds =>
      pooled { size := 5, overflow := 10, renewal := 3600, tried := true, shown := false, patience, connectSeconds }

end DatabaseAccess

/-- Where the server of the remote store is. -/
structure RemoteAddress where
  host : String
  port : Int
  password : Option String
  /-- Seconds to wait for a connection, and for each answer. -/
  patience : Float

/-- An empty password is none. -/
def RemoteAddress.ofSettings (settings : Settings) : RemoteAddress where
  host := settings.redisHost
  port := settings.redisPort
  password := settings.redisPassword.filter (!·.isEmpty)
  patience := settings.storeTimeout

inductive Opening where
  | memory
  | database (url : String) (access : DatabaseAccess)
  | remote (address : RemoteAddress)

def Opening.ofSettings (settings : Settings) : Except Decimal.WholeFault Opening :=
  match settings.storeKind with
  | .memory => .ok memory
  | .postgres =>
    (DatabaseAccess.ofUrl settings.databaseUrl settings.storeTimeout).map (database settings.databaseUrl)
  | .redis => .ok (remote (.ofSettings settings))

end ReadOnce.Store
