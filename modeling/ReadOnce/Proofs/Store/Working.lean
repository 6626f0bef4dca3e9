import ReadOnce.Proofs.Store.Interruption

/-!
Stores that work, of whatever kind: their calls are answered as long as the calendar and the counters give no cause for
a fault. What they answer follows from the entries they hold.
-/
namespace ReadOnce.Store

variable {σ : Type}

/-- A store whose calls are answered in all states that are sound, and lead to such states. -/
structure KeyValueStore.Working (store : KeyValueStore σ) (shelf : σ → Shelf) (sound : σ → Prop) : Prop where
  put {now : Instant} {key value : String} {duration : Duration} {state : σ} (well : sound state) :
    (∀ time, expiry now duration = .ok time → (store.put now key value duration state).1 = .ok ()) ∧
      sound (store.put now key value duration state).2
  get {now : Instant} {key : String} {state : σ} (well : sound state) :
    (∃ answer, (store.get now key state).1 = .ok answer) ∧ sound (store.get now key state).2
  delete {now : Instant} {key : String} {state : σ} (well : sound state) :
    (∃ answer, (store.delete now key state).1 = .ok answer) ∧ sound (store.delete now key state).2
  increment {now : Instant} {key : String} {duration : Option Duration} {expires : Option Instant} {state : σ}
    (well : sound state) (due : counterExpiry now duration = .ok expires)
    (countable : Countable now key (shelf state)) :
    (∃ count, (store.increment now key duration state).1 = .ok count) ∧
      sound (store.increment now key duration state).2

namespace KeyValueStore.Working

variable {store : KeyValueStore σ} {shelf : σ → Shelf} {sound : σ → Prop} {now : Instant} {state : σ}

theorem read (working : store.Working shelf sound) (lawful : store.Lawful shelf) (well : sound state)
    (now : Instant) (key : String) :
    ∃ next, store.get now key state = (.ok (((shelf state).live? now key).map (·.value)), next) ∧ sound next ∧
      Tidied now key (shelf state) (shelf next) := by
  obtain ⟨⟨answer, answered⟩, later⟩ := @working.get now key state well
  have effect := lawful.get now key state
  rw [answered] at effect
  obtain ⟨rfl, tidied⟩ := effect.of_get
  exact ⟨_, Prod.ext answered rfl, later, tidied⟩

theorem remove (working : store.Working shelf sound) (lawful : store.Lawful shelf) (well : sound state)
    (now : Instant) (key : String) :
    ∃ next, store.delete now key state = (.ok ((shelf state).live? now key).isSome, next) ∧ sound next ∧
      (shelf next).find? key = none ∧ SameBut key (shelf state) (shelf next) := by
  obtain ⟨⟨answer, answered⟩, later⟩ := @working.delete now key state well
  have effect := lawful.delete now key state
  rw [answered] at effect
  obtain ⟨rfl, here, others⟩ := effect.of_delete
  exact ⟨_, Prod.ext answered rfl, later, here, others⟩

variable {key : String} {duration : Option Duration} {expires : Option Instant}

/-- A counter is begun. -/
theorem begin_count (working : store.Working shelf sound) (lawful : store.Lawful shelf) (well : sound state)
    (due : counterExpiry now duration = .ok expires) (absent : (shelf state).live? now key = none) :
    ∃ next, store.increment now key duration state = (.ok 1, next) ∧ sound next ∧
      (shelf next).find? key = some ⟨"1", expires⟩ ∧ SameBut key (shelf state) (shelf next) := by
  have countable : Countable now key (shelf state) := by
    intro entry found
    rw [absent] at found
    cases found
  obtain ⟨⟨count, counted⟩, later⟩ := working.increment well due countable
  have effect := lawful.increment now key duration state
  rw [counted] at effect
  rcases effect.of_increment with ⟨_, rfl, time, reached, here⟩ | ⟨_, _, found, _⟩
  · rw [due] at reached
    cases reached
    exact ⟨_, Prod.ext counted rfl, later, here, effect.others⟩
  · rw [absent] at found
    cases found

/-- A counter is counted on from. -/
theorem count_on (working : store.Working shelf sound) (lawful : store.Lawful shelf) (well : sound state)
    (due : counterExpiry now duration = .ok expires) {entry : Entry} {count : Int} {value : String}
    (found : (shelf state).live? now key = some entry) (following : nextCount entry.value = .ok (count, value)) :
    ∃ next, store.increment now key duration state = (.ok count, next) ∧ sound next ∧
      (shelf next).find? key = some { entry with value } ∧ SameBut key (shelf state) (shelf next) := by
  have countable : Countable now key (shelf state) := by
    intro other there
    rw [found] at there
    cases there
    exact ⟨_, following⟩
  obtain ⟨⟨answer, counted⟩, later⟩ := working.increment well due countable
  have effect := lawful.increment now key duration state
  rw [counted] at effect
  rcases effect.of_increment with ⟨absent, _⟩ | ⟨other, _, there, reached, here⟩
  · rw [absent] at found
    cases found
  · rw [there] at found
    cases found
    rw [following] at reached
    cases reached
    exact ⟨_, Prod.ext counted rfl, later, here, effect.others⟩

end KeyValueStore.Working
end ReadOnce.Store
