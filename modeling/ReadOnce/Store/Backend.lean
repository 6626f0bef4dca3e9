import ReadOnce.Store.Memory
import ReadOnce.Store.Table

/-! The stores that keep entries themselves, as one type. -/
namespace ReadOnce.Store

inductive Backend where
  | memory (store : Memory)
  | table (table : Table)

namespace Backend

/-- Makes a call to whichever store it is. -/
def call {α : Type} (onMemory : Memory → Except StoreFault α × Memory)
    (onTable : Table → Except StoreFault α × Table) : Backend → Except StoreFault α × Backend
  | memory store => let (result, store) := onMemory store; (result, memory store)
  | table rows => let (result, rows) := onTable rows; (result, table rows)

def interface : KeyValueStore Backend where
  put now key value duration := call (Memory.put now key value duration) (Table.put now key value duration)
  get now key := call (Memory.get now key) (Table.get now key)
  delete now key := call (Memory.delete now key) (Table.delete now key)
  increment now key duration := call (Memory.increment now key duration) (Table.increment now key duration)

/-- What can be seen: the live entries of the one, all rows of the other. -/
def visible (now : Instant) : Backend → Option Shelf
  | memory store => some (store.shelf.live now)
  | table rows => rows.rows?

end Backend
end ReadOnce.Store
