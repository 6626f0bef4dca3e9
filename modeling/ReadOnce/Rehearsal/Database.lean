import ReadOnce.Rehearsal.Connection
import ReadOnce.Store.Backend
import ReadOnce.Store.Opening

/-!
The stores that are at hand in a rehearsal: the one within the process, and a database within the process or in
a file. There are no servers, so what needs one cannot be reached.
-/
namespace ReadOnce.Rehearsal

open Store

/-- Why the store that settings name is not built. -/
inductive BuildFault where
  | whole (fault : Decimal.WholeFault)
  | closed (fault : OpenFault)
  | unreachable

def BuildFault.message : BuildFault → String
  | whole fault => fault.message
  | closed fault => fault.message
  | unreachable => "Database connection failed"

/-- The store that settings name. The remote one is built without asking its server, and so can be built here,
though it can never be reached. -/
def built (settings : Settings) : Except BuildFault Backend := do
  match ← (Opening.ofSettings settings).mapError .whole with
  | .memory => return .memory .empty
  | .remote _ => return .table { Table.empty with reach := .unreachable }
  | .database url _ =>
    if (← (reach url).mapError .closed) = .ready then return .table .empty else throw .unreachable

end ReadOnce.Rehearsal
