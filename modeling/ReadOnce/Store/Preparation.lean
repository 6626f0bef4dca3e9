import ReadOnce.Log
import ReadOnce.Store.Backend

/-!
Whether a store answers, and what is recorded where it does not; and preparing a database by hand, with what is said
of it.
-/
namespace ReadOnce.Store

namespace Table

/-- Whether the database answers; it does so without the table too. -/
def ping (table : Table) : Bool := table.reach ≠ .unreachable

/-- What is recorded of asking whether the database answers, which gives a reason if it does not. -/
def pingLog (table : Table) (reason : String) : Log :=
  if table.ping then [] else [⟨.warning, .database, "Database connection failed: " ++ reason⟩]

/-- The name of the table of entries. -/
def name : String := "kv_entries"

/-- Makes the table where the database answers. -/
def prepare (table : Table) : Table := if table.ping then { table with reach := .ready } else table

/-- What is printed when the table has been prepared, or could not be. -/
def preparation (table : Table) : String :=
  if table.prepare.reach = .ready then "Tables ready: " ++ name ++ "\n" else "Database connection failed\n"

end Table

namespace Backend

def ping : Backend → Bool
  | memory _ => true
  | table rows => rows.ping

/-- What is recorded of asking whether the store answers. -/
def pingLog (backend : Backend) (reason : String := "out of reach") : Log :=
  match backend with
  | memory _ => []
  | table rows => rows.pingLog reason

end Backend
end ReadOnce.Store
