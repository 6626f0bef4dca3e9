import ReadOnce.Store.Interface

/-!
The store on a table of a database. Expired rows read as absent and stay until they are overwritten, deleted
or purged.
-/
namespace ReadOnce.Store

/-- Whether the database answers. -/
inductive Reach where
  | ready
  | tableMissing
  | unreachable
deriving DecidableEq, Repr

structure Table where
  rows : Shelf
  reach : Reach
  /-- How many of the next increments find their row made by someone else at the same time. -/
  conflicts : Nat

namespace Table

def empty : Table := ⟨.empty, .ready, 0⟩

/-- Runs a transaction, if the table can be reached at all. -/
def within {α : Type} (name : String) (table : Table)
    (transaction : Shelf → Except StoreFault α × Shelf) : Except StoreFault α × Table :=
  match table.reach with
  | .ready =>
    let (result, rows) := transaction table.rows
    (result, { table with rows })
  | _ => (.error (.unavailable ("sql " ++ name ++ " failed")), table)

/-- The expiry is reckoned before the database is asked. -/
def put (now : Instant) (key value : String) (duration : Duration) (table : Table) :
    Except StoreFault Unit × Table :=
  match expiry now duration with
  | .error fault => (.error fault, table)
  | .ok time => table.within "put" fun rows => (.ok (), rows.insert key ⟨value, some time⟩)

def get (now : Instant) (key : String) (table : Table) : Except StoreFault (Option String) × Table :=
  table.within "get" fun rows =>
    (.ok (((rows.find? key).filter (·.isLive now)).map (·.value)), rows)

/-- An expired row is removed too, without counting as removed. -/
def delete (now : Instant) (key : String) (table : Table) : Except StoreFault Bool × Table :=
  table.within "delete" fun rows =>
    match rows.find? key with
    | none => (.ok false, rows)
    | some entry => (.ok (entry.isLive now), rows.erase key)

/-- One attempt to increment, once it is known when a counter begun now expires. -/
def incrementRow (now : Instant) (key : String) (expires : Option Instant) (rows : Shelf) :
    Except StoreFault Int × Shelf :=
  match (rows.find? key).filter (·.isLive now) with
  | none => (.ok 1, rows.insert key ⟨"1", expires⟩)
  | some entry =>
    match nextCount entry.value with
    | .error fault => (.error fault, rows)
    | .ok (count, value) => (.ok count, rows.insert key { entry with value })

/-- What is answered to an increment whose row was made by someone else twice. -/
def contested : StoreFault := .unavailable "sql increment failed"

/-- An attempt reckons the expiry before it can meet a conflict. One that meets a conflict is made once more; a second
conflict is a fault. -/
def increment (now : Instant) (key : String) (duration : Option Duration) (table : Table) :
    Except StoreFault Int × Table :=
  match counterExpiry now duration with
  | .error fault => (.error fault, table)
  | .ok expires =>
    if table.conflicts ≥ 2 then (.error contested, { table with conflicts := table.conflicts - 2 })
    else { table with conflicts := 0 }.within "increment" (incrementRow now key expires)

def interface : KeyValueStore Table := ⟨put, get, delete, increment⟩

/-- Removes all expired rows and gives their number. -/
def purge (now : Instant) (table : Table) : Except StoreFault Nat × Table :=
  table.within "purge" fun rows =>
    let live := rows.live now
    (.ok (rows.entries.length - live.entries.length), live)

/-- The rows, if they can be read. -/
def rows? (table : Table) : Option Shelf := if table.reach = .ready then some table.rows else none

end Table
end ReadOnce.Store
