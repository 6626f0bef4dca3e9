import ReadOnce.Store.Backend

/-!
A store that fails on demand. Rules say which calls go wrong and how; the first rule that fits a call counts,
and a call that no rule fits reaches the store behind.
-/
namespace ReadOnce.Rehearsal

open Store

inductive Call where
  | put
  | get
  | delete
  | increment
deriving DecidableEq

inductive Mishap where
  | unavailable
  | broken
  /-- Someone else deletes the entry right after it was read. -/
  | stolen

structure Rule where
  call : Call
  /-- The kind of key that the rule is about; any, if none is given. -/
  kind : Option String
  mishap : Mishap

structure Unsteady (σ : Type) where
  store : σ
  rules : List Rule
  /-- How many of the next attempts to increment meet someone else at the same row. -/
  races : Nat

namespace Unsteady

variable {σ α : Type}

def mishap? (unsteady : Unsteady σ) (call : Call) (key : String) : Option Mishap :=
  (unsteady.rules.find? fun rule =>
    rule.call = call && rule.kind.all (· = Key.kind key)).map (·.mishap)

/-- Makes a call, unless a rule lets it fail. -/
def guarded (call : Call) (key : String) (act : σ → Except StoreFault α × σ)
    (unsteady : Unsteady σ) : Except StoreFault α × Unsteady σ :=
  match unsteady.mishap? call key with
  | some .unavailable => (.error (.unavailable "injected"), unsteady)
  | some .broken => (.error (.broken "injected"), unsteady)
  | _ =>
    let (result, store) := act unsteady.store
    (result, { unsteady with store })

def getStolen (inner : KeyValueStore σ) (now : Instant) (key : String) (store : σ) :
    Except StoreFault (Option String) × σ :=
  match inner.get now key store with
  | (.error fault, store) => (.error fault, store)
  | (.ok value, store) =>
    match inner.delete now key store with
    | (.error fault, store) => (.error fault, store)
    | (.ok _, store) => (.ok value, store)

/-- An increment is attempted twice, and is a fault if someone else is met both times. -/
def incrementRacing (act : σ → Except StoreFault Int × σ) (unsteady : Unsteady σ) :
    Except StoreFault Int × Unsteady σ :=
  if unsteady.races ≥ 2 then (.error Table.contested, { unsteady with races := unsteady.races - 2 })
  else
    let (result, store) := act unsteady.store
    (result, { unsteady with store, races := 0 })

def interface (inner : KeyValueStore σ) : KeyValueStore (Unsteady σ) where
  put now key value duration := guarded .put key (inner.put now key value duration)
  get now key unsteady :=
    match unsteady.mishap? .get key with
    | some .stolen =>
      let (result, store) := getStolen inner now key unsteady.store
      (result, { unsteady with store })
    | _ => guarded .get key (inner.get now key) unsteady
  delete now key := guarded .delete key (inner.delete now key)
  increment now key duration unsteady :=
    match unsteady.mishap? .increment key with
    | some .unavailable | some .broken => guarded .increment key (inner.increment now key duration) unsteady
    | _ => incrementRacing (inner.increment now key duration) unsteady

end Unsteady
end ReadOnce.Rehearsal
