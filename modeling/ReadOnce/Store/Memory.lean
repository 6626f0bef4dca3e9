import ReadOnce.Store.Interface

/-! The store within the process. An entry that is found expired is removed at that moment. -/
namespace ReadOnce.Store

structure Memory where
  shelf : Shelf
deriving Inhabited

namespace Memory

def empty : Memory := ⟨.empty⟩

/-- The live entry under a key; an expired one is removed. -/
def visit (now : Instant) (key : String) (store : Memory) : Option Entry × Memory :=
  match store.shelf.find? key with
  | none => (none, store)
  | some entry => if entry.isLive now then (some entry, store) else (none, ⟨store.shelf.erase key⟩)

def put (now : Instant) (key value : String) (duration : Duration) (store : Memory) :
    Except StoreFault Unit × Memory :=
  match expiry now duration with
  | .error fault => (.error fault, store)
  | .ok time => (.ok (), ⟨store.shelf.insert key ⟨value, some time⟩⟩)

def get (now : Instant) (key : String) (store : Memory) : Except StoreFault (Option String) × Memory :=
  let (entry, store) := store.visit now key
  (.ok (entry.map (·.value)), store)

def delete (now : Instant) (key : String) (store : Memory) : Except StoreFault Bool × Memory :=
  match store.visit now key with
  | (none, store) => (.ok false, store)
  | (some _, store) => (.ok true, ⟨store.shelf.erase key⟩)

def increment (now : Instant) (key : String) (duration : Option Duration) (store : Memory) :
    Except StoreFault Int × Memory :=
  match store.visit now key with
  | (none, store) =>
    match counterExpiry now duration with
    | .error fault => (.error fault, store)
    | .ok expires => (.ok 1, ⟨store.shelf.insert key ⟨"1", expires⟩⟩)
  | (some entry, store) =>
    match nextCount entry.value with
    | .error fault => (.error fault, store)
    | .ok (count, value) => (.ok count, ⟨store.shelf.insert key { entry with value }⟩)

def interface : KeyValueStore Memory := ⟨put, get, delete, increment⟩

/-- Moves the expiry of an entry to one second ago. -/
def expire (now : Instant) (key : String) (store : Memory) : Except StoreFault Unit × Memory :=
  match store.shelf.find? key with
  | none => (.ok (), store)
  | some entry =>
    match expiry now (-Duration.second) with
    | .error fault => (.error fault, store)
    | .ok time => (.ok (), ⟨store.shelf.insert key { entry with expires := some time }⟩)

def expiresAt (now : Instant) (key : String) (store : Memory) : Option Instant × Memory :=
  let (entry, store) := store.visit now key
  (entry.bind (·.expires), store)

/-- The live keys; all expired entries are removed. -/
def keys (now : Instant) (store : Memory) : List String × Memory :=
  let live := store.shelf.live now
  (live.sorted.map (·.1), ⟨live⟩)

end Memory
end ReadOnce.Store
