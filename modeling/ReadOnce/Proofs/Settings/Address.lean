import ReadOnce.Proofs.Settings.Environment

/-!
Addresses put together from parts. The marks between the parts may stand in the parts as well, so that an address need
not tell the parts it was made of; it is said which addresses do.
-/
namespace ReadOnce.Settings

private theorem cut_cases {mark : Char} {front rest other tail : List Char}
    (same : front ++ mark :: rest = other ++ mark :: tail) :
    (front = other ∧ rest = tail) ∨ (∃ middle, other = front ++ mark :: middle ∧ rest = middle ++ mark :: tail) ∨
      ∃ middle, front = other ++ mark :: middle ∧ tail = middle ++ mark :: rest := by
  rcases List.append_eq_append_iff.mp same with ⟨gap, longer, split⟩ | ⟨gap, longer, split⟩
  · cases gap with
    | nil => exact .inl ⟨by simpa using longer.symm, (List.cons.inj split).2⟩
    | cons first middle =>
      obtain ⟨rfl, rest⟩ := List.cons.inj split
      exact .inr (.inl ⟨middle, longer, rest⟩)
  · cases gap with
    | nil => exact .inl ⟨by simpa using longer, (List.cons.inj split).2.symm⟩
    | cons first middle =>
      obtain ⟨rfl, rest⟩ := List.cons.inj split
      exact .inr (.inr ⟨middle, longer, rest⟩)

private theorem mem_cut (front : List Char) (mark : Char) (rest : List Char) : mark ∈ front ++ mark :: rest :=
  List.mem_append_right front List.mem_cons_self

private theorem cut_ne {front : List Char} {mark : Char} {rest : List Char} : front ++ mark :: rest ≠ front := by simp

namespace Environment

namespace Address

/-- No part holds a mark that could be taken for one of those around it. A colon in front of the host and an at sign
behind it do no harm, as there is no address without a host. -/
structure Separate (address : Address) : Prop where
  user : ':' ∉ address.user.toList
  password : ':' ∉ address.password.toList ∧ '@' ∉ address.password.toList
  host : ':' ∉ address.host.toList.tail ∧ '@' ∉ address.host.toList.dropLast
  port : ':' ∉ address.port.toList ∧ '/' ∉ address.port.toList
  database : '/' ∉ address.database.toList

variable {address other : Address}

/-- User, password and host are found again in front of whatever follows them. -/
theorem Separate.login_inj (separate : address.Separate) {user password host : List Char} (hosted : host ≠ [])
    (same : address.user.toList ++ ':' :: (address.password.toList ++ '@' :: address.host.toList) =
      user ++ ':' :: (password ++ '@' :: host)) :
    address.user.toList = user ∧ address.password.toList = password ∧ address.host.toList = host := by
  -- the at sign behind the password can be no other, wherever what stands in front of it begins
  have cut {front : List Char} (rest : address.password.toList ++ '@' :: address.host.toList = front ++ '@' :: host) :
      address.password.toList = front ∧ address.host.toList = host := by
    rcases cut_cases rest with both | ⟨middle, _, within⟩ | ⟨middle, within, _⟩
    · exact both
    · have inside : '@' ∈ address.host.toList.dropLast := by
        rw [within, List.dropLast_append_cons, List.dropLast_cons_of_ne_nil hosted]
        exact mem_cut _ _ _
      exact absurd inside separate.host.2
    · exact absurd (within ▸ mem_cut _ _ _) separate.password.2
  rcases cut_cases same with ⟨first, rest⟩ | ⟨middle, _, rest⟩ | ⟨middle, within, _⟩
  · obtain ⟨second, third⟩ := cut rest
    exact ⟨first, second, third⟩
  · have regrouped : middle ++ ':' :: (password ++ '@' :: host) = (middle ++ ':' :: password) ++ '@' :: host := by simp
    obtain ⟨within, _⟩ := cut (rest.trans regrouped)
    exact absurd (within ▸ mem_cut _ _ _) separate.password.1
  · exact absurd (within ▸ mem_cut _ _ _) separate.user

theorem Separate.served_inj (separate : address.Separate) {user password host port : List Char} (hosted : host ≠ [])
    (same : (address.user.toList ++ ':' :: (address.password.toList ++ '@' :: address.host.toList)) ++
        ':' :: address.port.toList = (user ++ ':' :: (password ++ '@' :: host)) ++ ':' :: port) :
    address.user.toList = user ∧ address.password.toList = password ∧ address.host.toList = host ∧
      address.port.toList = port := by
  rcases cut_cases same with ⟨login, rest⟩ | ⟨middle, _, within⟩ | ⟨middle, longer, _⟩
  · obtain ⟨first, second, third⟩ := separate.login_inj hosted login
    exact ⟨first, second, third, rest⟩
  · exact absurd (within ▸ mem_cut _ _ _) separate.port.1
  · -- the host would go on behind a colon
    have regrouped : (user ++ ':' :: (password ++ '@' :: host)) ++ ':' :: middle =
        user ++ ':' :: (password ++ '@' :: (host ++ ':' :: middle)) := by simp
    obtain ⟨_, _, third⟩ := separate.login_inj (by simp) (longer.trans regrouped)
    have inside : ':' ∈ address.host.toList.tail := by
      rw [third, List.tail_append_of_ne_nil hosted]
      exact mem_cut _ _ _
    exact absurd inside separate.host.1

/-- No other address with a host is written like a separate one. -/
theorem Separate.eq_of_url (separate : address.Separate) (hosted : other.host ≠ "") (same : other.url = address.url) :
    other = address := by
  have regrouped (address : Address) : address.body =
      ((address.user.toList ++ ':' :: (address.password.toList ++ '@' :: address.host.toList)) ++
        ':' :: address.port.toList) ++ '/' :: address.database.toList := by simp [body]
  have bodies := (url_inj.mp same).symm
  rw [regrouped, regrouped] at bodies
  have host : other.host.toList ≠ [] := by simpa using hosted
  rcases cut_cases bodies with ⟨served, rest⟩ | ⟨middle, _, within⟩ | ⟨middle, longer, _⟩
  · obtain ⟨first, second, third, fourth⟩ := separate.served_inj host served
    cases address
    cases other
    simp only [String.toList_inj] at first second third fourth rest
    rw [first, second, third, fourth, rest]
  · exact absurd (within ▸ mem_cut _ _ _) separate.database
  · -- the port would go on behind a slash
    have served : ((other.user.toList ++ ':' :: (other.password.toList ++ '@' :: other.host.toList)) ++
        ':' :: other.port.toList) ++ '/' :: middle =
          (other.user.toList ++ ':' :: (other.password.toList ++ '@' :: other.host.toList)) ++
            ':' :: (other.port.toList ++ '/' :: middle) := by simp
    obtain ⟨_, _, _, fourth⟩ := separate.served_inj host (longer.trans served)
    exact absurd (fourth ▸ mem_cut _ _ _) separate.port.2

/-- The address is written like no other that has a host. -/
def Determined (address : Address) : Prop :=
  ∀ other : Address, other.host ≠ "" → other.url = address.url → other = address

theorem Determined.parts (determined : address.Determined) (user password host port database : List Char)
    (hosted : host ≠ [])
    (same : address.body = user ++ ':' :: (password ++ '@' :: (host ++ ':' :: (port ++ '/' :: database)))) :
    user = address.user.toList ∧ password = address.password.toList ∧ host = address.host.toList ∧
      port = address.port.toList := by
  have equal := determined
    ⟨.ofList user, .ofList password, .ofList host, .ofList port, .ofList database⟩ (by simpa using hosted)
    (url_inj.mpr (by simpa [body] using same.symm))
  rw [← equal]
  simp

theorem Determined.user_whole (determined : address.Determined) (hosted : address.host.toList ≠ []) :
    ':' ∉ address.user.toList := by
  intro inside
  obtain ⟨front, rest, split⟩ := List.append_of_mem inside
  obtain ⟨same, _⟩ := determined.parts front (rest ++ ':' :: address.password.toList) address.host.toList
    address.port.toList address.database.toList hosted (by simp [body, split])
  exact cut_ne (split.symm.trans same.symm)

theorem Determined.password_whole (determined : address.Determined) (hosted : address.host.toList ≠ []) :
    ':' ∉ address.password.toList ∧ '@' ∉ address.password.toList := by
  constructor <;> intro inside <;> obtain ⟨front, rest, split⟩ := List.append_of_mem inside
  · obtain ⟨same, _⟩ := determined.parts (address.user.toList ++ ':' :: front) rest address.host.toList
      address.port.toList address.database.toList hosted (by simp [body, split])
    exact cut_ne same
  · obtain ⟨_, same, _⟩ := determined.parts address.user.toList front (rest ++ '@' :: address.host.toList)
      address.port.toList address.database.toList (by simp) (by simp [body, split])
    exact cut_ne (split.symm.trans same.symm)

/-- A mark at the start of the host or at its end leaves no host on the one side of it. -/
theorem Determined.host_whole (determined : address.Determined) (hosted : address.host.toList ≠ []) :
    ':' ∉ address.host.toList.tail ∧ '@' ∉ address.host.toList.dropLast := by
  constructor <;> intro inside <;> obtain ⟨front, rest, split⟩ := List.append_of_mem inside
  · obtain ⟨first, whole⟩ : ∃ first, address.host.toList = (first :: front) ++ ':' :: rest :=
      ⟨address.host.toList.head hosted, by rw [List.cons_append, ← split, List.cons_head_tail]⟩
    obtain ⟨_, _, same, _⟩ := determined.parts address.user.toList address.password.toList (first :: front)
      (rest ++ ':' :: address.port.toList) address.database.toList (by simp) (by simp [body, whole])
    exact cut_ne (whole.symm.trans same.symm)
  · obtain ⟨last, whole⟩ : ∃ last, address.host.toList = front ++ '@' :: (rest ++ [last]) :=
      ⟨address.host.toList.getLast hosted, by
        rw [← List.cons_append, ← List.append_assoc, ← split, List.dropLast_concat_getLast]⟩
    obtain ⟨_, same, _⟩ := determined.parts address.user.toList (address.password.toList ++ '@' :: front)
      (rest ++ [last]) address.port.toList address.database.toList (by simp) (by simp [body, whole])
    exact cut_ne same

theorem Determined.port_whole (determined : address.Determined) (hosted : address.host.toList ≠ []) :
    ':' ∉ address.port.toList ∧ '/' ∉ address.port.toList := by
  constructor <;> intro inside <;> obtain ⟨front, rest, split⟩ := List.append_of_mem inside
  · obtain ⟨_, _, same, _⟩ := determined.parts address.user.toList address.password.toList
      (address.host.toList ++ ':' :: front) rest address.database.toList (by simp) (by simp [body, split])
    exact cut_ne same
  · obtain ⟨_, _, _, same⟩ := determined.parts address.user.toList address.password.toList address.host.toList front
      (rest ++ '/' :: address.database.toList) hosted (by simp [body, split])
    exact cut_ne (split.symm.trans same.symm)

theorem Determined.database_whole (determined : address.Determined) (hosted : address.host.toList ≠ []) :
    '/' ∉ address.database.toList := by
  intro inside
  obtain ⟨front, rest, split⟩ := List.append_of_mem inside
  obtain ⟨_, _, _, same⟩ := determined.parts address.user.toList address.password.toList address.host.toList
    (address.port.toList ++ '/' :: front) rest hosted (by simp [body, split])
  exact cut_ne same

theorem Determined.separate (determined : address.Determined) (hosted : address.host ≠ "") : address.Separate := by
  have held : address.host.toList ≠ [] := by simpa using hosted
  exact ⟨determined.user_whole held, determined.password_whole held, determined.host_whole held,
    determined.port_whole held, determined.database_whole held⟩

/-- An environment that gives an address in parts, and nothing else. -/
def environment (address : Address) : Environment :=
  [("DB_USER", address.user), ("DB_PASS", address.password), ("DB_HOST", address.host), ("DB_PORT", address.port),
    ("DB_NAME", address.database)]

end Address

/-- The parts that the address of the database is put together from, where it is not given as a whole. -/
def parts? (environment : Environment) : Option Address :=
  match environment.pick? ["DATABASE_URL"] with
  | some _ => none
  | none => environment.address?

variable {environment : Environment} {address : Address} {settings : Settings}

theorem pick?_ne_empty {names : List String} {value : String} (picked : environment.pick? names = some value) :
    value ≠ "" := by
  obtain ⟨name, _, found⟩ := List.exists_of_findSome?_eq_some picked
  have filled := (Option.filter_eq_some_iff.mp found).2
  simpa using filled

theorem parts?_eq_some_iff :
    environment.parts? = some address ↔
      environment.pick? ["DATABASE_URL"] = none ∧ environment.address? = some address := by
  rw [parts?]
  cases environment.pick? ["DATABASE_URL"] <;> simp

theorem host_of_parts (parted : environment.parts? = some address) : address.host ≠ "" := by
  obtain ⟨_, given⟩ := parts?_eq_some_iff.mp parted
  obtain ⟨host, picked, rfl⟩ := Option.map_eq_some_iff.mp given
  exact pick?_ne_empty picked

/-- Accepted settings have the parts, with the marks between them, for the address of the database. -/
theorem databaseUrl_of_parts_of_accepted (parted : environment.parts? = some address)
    (accepted : ofEnvironment environment = .ok settings) : settings.databaseUrl = address.url := by
  obtain ⟨unset, given⟩ := parts?_eq_some_iff.mp parted
  exact (databaseUrl_of_accepted accepted).trans (databaseUrl_of_parts unset given)

theorem pick?_eq_none {names : List String} (absent : ∀ name ∈ names, name ∉ environment.map Prod.fst) :
    environment.pick? names = none := by
  refine List.findSome?_eq_none_iff.mpr fun name member => ?_
  have missing : environment.lookup name = none := by
    rw [List.lookup_eq_none_iff]
    intro row inside
    have apart : name ≠ row.1 := fun same => absent name member (same ▸ List.mem_map_of_mem inside)
    simpa using apart
  rw [missing]
  rfl

namespace Address

theorem parts?_environment (hosted : address.host ≠ "") : address.environment.parts? = some address := by
  have given : address.environment.pick? ["DB_HOST"] = some address.host := by
    have found : address.environment.lookup "DB_HOST" = some address.host := rfl
    rw [pick?, List.findSome?_cons, found]
    simp [Option.filter, hosted]
  exact parts?_eq_some_iff.mpr ⟨rfl, address?_of_host given⟩

theorem ofEnvironment_environment (hosted : address.host ≠ "") :
    ofEnvironment address.environment = .ok { databaseUrl := address.url } := by
  obtain ⟨unset, given⟩ := parts?_eq_some_iff.mp (parts?_environment hosted)
  have foreign : ∀ row ∈ names, ∀ name ∈ row.2, name ∉ ["DB_USER", "DB_PASS", "DB_HOST", "DB_PORT", "DB_NAME"] := by
    decide
  rw [← databaseUrl_of_parts unset given]
  exact ofEnvironment_of_none fun row member _ => pick?_eq_none (foreign row member)

end Address

/-- The address of the database in accepted settings tells the parts it was put together from exactly where they are
separate; for other parts there is an environment with different ones that gives the same address. -/
theorem databaseUrl_tells_parts_iff (parted : environment.parts? = some address)
    (accepted : ofEnvironment environment = .ok settings) :
    settings.databaseUrl = address.url ∧
      ((∀ (other : Environment) (rival : Address) (otherwise : Settings), other.parts? = some rival →
          ofEnvironment other = .ok otherwise → otherwise.databaseUrl = settings.databaseUrl → rival = address) ↔
        address.Separate) := by
  have url := databaseUrl_of_parts_of_accepted parted accepted
  refine ⟨url, ?_, ?_⟩
  · intro tells
    refine Address.Determined.separate ?_ (host_of_parts parted)
    intro rival hosted same
    refine tells rival.environment rival { databaseUrl := rival.url } (Address.parts?_environment hosted)
      (Address.ofEnvironment_environment hosted) ?_
    exact same.trans url.symm
  · intro separate other rival otherwise rivalParts rivalAccepted same
    refine separate.eq_of_url (host_of_parts rivalParts) ?_
    rw [← databaseUrl_of_parts_of_accepted rivalParts rivalAccepted, same, url]

/-- Slashes and at signs are found again where they do not stand in front of a mark like them. -/
theorem databaseUrl_tells_parts_slashes :
    let environment : Environment :=
      [("DB_HOST", "db"), ("DB_USER", "u@x/y"), ("DB_PASS", "p/q"), ("DB_NAME", "a:b@c")]
    let address : Address := ⟨"u@x/y", "p/q", "db", "5432", "a:b@c"⟩
    environment.parts? = some address ∧
      ofEnvironment environment = .ok { databaseUrl := "postgresql://u@x/y:p/q@db:5432/a:b@c" } ∧
      ∀ (other : Environment) (rival : Address) (otherwise : Settings), other.parts? = some rival →
        ofEnvironment other = .ok otherwise →
          otherwise.databaseUrl = "postgresql://u@x/y:p/q@db:5432/a:b@c" → rival = address := by
  intro environment address
  have parted : environment.parts? = some address := by decide
  have url : environment.databaseUrl = "postgresql://u@x/y:p/q@db:5432/a:b@c" := by decide +kernel
  have accepted := @ofEnvironment_of_none environment (by decide)
  rw [url] at accepted
  have separate : address.Separate := ⟨by decide, by decide, by decide, by decide, by decide⟩
  exact ⟨parted, accepted, (databaseUrl_tells_parts_iff parted accepted).2.mpr separate⟩

/-- A colon in the user is not told from one in the password. -/
theorem glued_colon :
    let environment : Environment := [("DB_HOST", "db"), ("DB_USER", "a:b"), ("DB_PASS", "c")]
    let other : Environment := [("DB_HOST", "db"), ("DB_USER", "a"), ("DB_PASS", "b:c")]
    environment.parts? ≠ other.parts? ∧
      ofEnvironment environment = .ok { databaseUrl := "postgresql://a:b:c@db:5432/secretbroker" } ∧
      ofEnvironment other = .ok { databaseUrl := "postgresql://a:b:c@db:5432/secretbroker" } := by
  intro environment other
  have url : environment.databaseUrl = "postgresql://a:b:c@db:5432/secretbroker" := by decide +kernel
  have same : other.databaseUrl = "postgresql://a:b:c@db:5432/secretbroker" := by decide +kernel
  have accepted := @ofEnvironment_of_none environment (by decide)
  have likewise := @ofEnvironment_of_none other (by decide)
  rw [url] at accepted
  rw [same] at likewise
  exact ⟨by decide, accepted, likewise⟩

end Environment
end ReadOnce.Settings
