import ReadOnce.Proofs.Traffic

/-!
A message is handed out at most as often as it was stored. Readers may all open the same envelope before any of
them removes it; what decides is that only one removal of an entry succeeds.
-/
namespace ReadOnce.Message

open Store

variable {ρ : Type}

/-- Whether an operation has handed out the text of a message. -/
def Operation.delivers (id : String) : Operation → Bool
  | .retrieval _ other _ (.ended (.ok (.success _))) => other = id
  | _ => false

/-- Whether an operation has won the text of a message, handed out or not. -/
def Operation.owns (id : String) : Operation → Bool
  | .retrieval _ other _ (.clearing _) | .retrieval _ other _ (.ended (.ok (.success _))) => other = id
  | _ => false

namespace Traffic

/-- How many operations have handed out the text of a message. -/
def delivered (id : String) (traffic : Traffic Backend) : Nat := traffic.operations.countP (·.delivers id)

/-- How many calls have stored an envelope of a message. -/
def stored (id : String) (traffic : Traffic Backend) : Nat :=
  traffic.store.calls.countP (·.exchange.stores (Key.message id))

end Traffic

/-- The number of envelopes that a store holds of a message. -/
def envelopes (id : String) (store : Backend) : Nat := (store.shelf.find? (Key.message id)).isSome.toNat

theorem Operation.owns_of_delivers {id : String} {operation : Operation} (handed : operation.delivers id = true) :
    operation.owns id = true := by
  unfold delivers at handed
  split at handed
  · exact handed
  · cases handed

theorem Operation.begun_owns {turn : Turn ρ} {operation : Operation} (id : String)
    (asked : turn.begins? = some operation) : operation.owns id = false := by
  cases turn with
  | create service source dice text => cases asked; rfl
  | retrieve service other key =>
    cases asked
    simp only [Operation.retrieve]
    cases keyOf other key <;> rfl
  | call caller failure => cases asked

theorem owns_afterFault (service : Service) (id other : String) (key : Bytes) (doing : String) (fault : StoreFault) :
    (Operation.retrieval service other key (.ended (afterFault doing fault).1)).owns id = false := by
  cases fault <;> rfl

private theorem owns_examine (service : Service) (id other : String) (key : Bytes) (attempt : Int)
    (envelope : Option String) :
    (Operation.retrieval service other key (Retrieval.examine other key attempt envelope).1).owns id = false := by
  cases envelope with
  | none => rfl
  | some envelope =>
    simp only [Retrieval.examine]
    cases Retrieval.reveal? envelope key <;> rfl

private theorem envelopes_of_others {id key : String} {before after : Backend} (apart : Key.message id ≠ key)
    (others : SameBut key before.shelf after.shelf) : envelopes id after = envelopes id before := by
  rw [envelopes, envelopes, others _ apart]

private theorem envelopes_of_gone {id : String} {after : Backend}
    (gone : after.shelf.find? (Key.message id) = none) : envelopes id after = 0 := by
  rw [envelopes, gone]
  rfl

private theorem envelopes_of_tidied {id key : String} {now : Instant} {before after : Backend}
    (tidied : Tidied now key before.shelf after.shelf) : envelopes id after ≤ envelopes id before := by
  unfold envelopes
  cases found : after.shelf.find? (Key.message id) with
  | none => exact Nat.zero_le _
  | some entry => exact Nat.le_of_eq (by rw [tidied.found found])

private theorem envelopes_of_removed {id other : String} {before after : Backend}
    (gone : after.shelf.find? (Key.message other) = none)
    (others : SameBut (Key.message other) before.shelf after.shelf) :
    envelopes id after ≤ envelopes id before := by
  by_cases same : id = other
  · subst same
    rw [envelopes_of_gone gone]
    exact Nat.zero_le _
  · exact Nat.le_of_eq (envelopes_of_others (fun equal => same (Key.message_inj.mp equal)) others)

private theorem envelopes_of_won {id : String} {now : Instant} {before : Backend}
    (found : true = (before.shelf.live? now (Key.message id)).isSome) : envelopes id before = 1 := by
  obtain ⟨entry, live⟩ := Option.isSome_iff_exists.mp found.symm
  rw [envelopes, (Shelf.live?_eq_some.mp live).1]
  rfl

private theorem account_of_unowned {id : String} {operation next : Operation} {exchange : Exchange}
    {before after : Backend} (unowned : next.owns id = false) (less : envelopes id after ≤ envelopes id before) :
    (next.owns id).toNat + envelopes id after ≤
      (operation.owns id).toNat + envelopes id before + (exchange.stores (Key.message id)).toNat := by
  rw [unowned, Bool.toNat_false]
  omega

private theorem account_of_put (id : String) {other envelope : String} {duration : Duration} {now : Instant}
    {before after : Backend} (effect : Effect now before.shelf after.shelf
      (.put (Key.message other) envelope duration (.ok ()))) :
    envelopes id after ≤ envelopes id before +
      ((Exchange.put (Key.message other) envelope duration (.ok ())).stores (Key.message id)).toNat := by
  by_cases same : other = id
  · subst same
    have paid : (Exchange.put (Key.message other) envelope duration (.ok ())).stores (Key.message other) = true := by
      simp [Exchange.stores]
    have one : envelopes other after ≤ 1 := Bool.toNat_le _
    rw [paid, Bool.toNat_true]
    omega
  · have apart : Key.message id ≠ Key.message other := fun equal => same (Key.message_inj.mp equal).symm
    rw [envelopes_of_others apart effect.others]
    exact Nat.le_add_right _ _

private theorem account_of_won (id : String) {service : Service} {other text : String} {key : Bytes} {now : Instant}
    {before after : Backend}
    (effect : Effect now before.shelf after.shelf (.delete (Key.message other) (.ok true))) :
    ((Operation.retrieval service other key (.clearing text)).owns id).toNat + envelopes id after ≤
      envelopes id before := by
  obtain ⟨found, here, others⟩ := effect.of_delete
  by_cases same : other = id
  · subst same
    have had := envelopes_of_won found
    have gone := envelopes_of_gone here
    have one := Bool.toNat_le ((Operation.retrieval service other key (.clearing text)).owns other)
    omega
  · have less : envelopes id after ≤ envelopes id before := envelopes_of_removed here others
    simp only [Operation.owns, same, decide_false, Bool.toNat_false]
    omega

/-- Whoever comes to own a text has removed an envelope, and an envelope only comes from a put. -/
theorem Moves.account {now : Instant} {operation next : Operation} {exchange : Exchange} {before after : Backend}
    (id : String) (moves : Moves operation next exchange) (effect : Effect now before.shelf after.shelf exchange) :
    (next.owns id).toNat + envelopes id after ≤
      (operation.owns id).toNat + envelopes id before + (exchange.stores (Key.message id)).toNat := by
  cases moves with
  | stored service other envelope key =>
    have put := account_of_put id effect
    simp only [Operation.owns, Bool.toNat_false]
    omega
  | unstored service other envelope key fault =>
    exact account_of_unowned rfl (envelopes_of_tidied (effect.of_fault rfl))
  | counted service other key attempt =>
    refine account_of_unowned ?_ (Nat.le_of_eq (envelopes_of_others (Key.message_ne_attempts id other) effect.others))
    split <;> rfl
  | discarded service other key removed | lost service other key text =>
    obtain ⟨_, here, others⟩ := effect.of_delete
    exact account_of_unowned rfl (envelopes_of_removed here others)
  | fetched service other key attempt envelope =>
    exact account_of_unowned (owns_examine service id other key attempt envelope) (envelopes_of_tidied effect.of_get.2)
  | won service other key text =>
    -- the text is paid for by the envelope that was removed
    have won := @account_of_won id service other text key now before after effect
    omega
  | cleared service other key text removed =>
    have same := envelopes_of_others (Key.message_ne_attempts id other) effect.others
    simp only [Operation.owns, same]
    omega
  | broken service other key stage fault failed about =>
    have tidied := effect.of_fault (by rw [failed]; rfl)
    exact account_of_unowned (owns_afterFault service id other key _ fault) (envelopes_of_tidied tidied)

/-- Texts that are owned and the envelope still there are paid for by puts and by what was there before. -/
def Traffic.Accounted (id : String) (initial : Nat) (traffic : Traffic Backend) : Prop :=
  traffic.operations.countP (·.owns id) + envelopes id traffic.store.store ≤ traffic.stored id + initial

theorem Traffic.Change.accounted {event : Event ρ} {id : String} {initial : Nat} {before after : Traffic Backend}
    (change : Change Backend.shelf event before after) (accounted : before.Accounted id initial) :
    after.Accounted id initial := by
  unfold Accounted at accounted ⊢
  cases change with
  | idle => exact accounted
  | begun operation asked =>
    have none := Operation.begun_owns id asked
    rw [List.countP_append, List.countP_singleton, none]
    exact accounted
  | called caller operation next store turn made =>
    obtain ⟨exchange, moves, effect, calls⟩ := made
    have account := moves.account id effect
    have owners := countP_set_toNat (·.owns id) next turn
    have puts : (Traffic.mk (before.operations.set caller next) store).stored id =
        before.stored id + (exchange.stores (Key.message id)).toNat := by
      simp only [stored, calls, countP_cons_toNat]
    rw [puts]
    dsimp only
    omega

/-- However calls of creations and retrievals take turns, however the clock stands at each of them, and whichever of
them fail: a message is handed out at most as often as it was stored, and once more if it was there before. -/
theorem delivered_le_stored (id : String) (store : Backend) (events : List (Event ρ)) :
    ((Traffic.begin store).run Backend.interface events).delivered id ≤
      ((Traffic.begin store).run Backend.interface events).stored id + envelopes id store := by
  have start : (Traffic.begin store).Accounted id (envelopes id store) := by
    simp [Traffic.Accounted, Traffic.begin, Traffic.stored]
  have finish := Traffic.run_induction Backend.lawful events (Traffic.begin store) start
    fun _ _ _ _ accounted change => change.accounted accounted
  have owned : ((Traffic.begin store).run Backend.interface events).delivered id ≤
      ((Traffic.begin store).run Backend.interface events).operations.countP (·.owns id) :=
    List.countP_mono_left fun _ _ => Operation.owns_of_delivers
  unfold Traffic.Accounted at finish
  omega

end ReadOnce.Message
