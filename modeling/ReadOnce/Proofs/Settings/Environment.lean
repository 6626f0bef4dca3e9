import ReadOnce.Settings.Environment

/-!
Variables with nothing in them. To most settings a blank variable is as good as none; where the address of the database
is put together from parts, it is not.
-/
namespace ReadOnce.Settings

open Validation

theorem field_congr {α : Type} {fields plain : Fields} {name : String} (same : fields.lookup name = plain.lookup name)
    (otherwise : α) (read : Json → Except Reason α) :
    field fields name otherwise read = field plain name otherwise read := by
  rw [field, field, same]

private theorem and_databaseUrl {make : Checked (String → String → Int → String → Settings)} {url : String}
    (sets : ∀ f, make = .ok f → ∀ before host port level,
      { f before host port level with databaseUrl := url } = f url host port level)
    (before : String) (host : Checked String) (port : Checked Int) (level : Checked String) :
    (((make.and (.ok url)).and host).and port).and level =
      ((((make.and (.ok before)).and host).and port).and level).map ({ · with databaseUrl := url }) := by
  cases make with
  | error issues => cases host <;> cases port <;> cases level <;> rfl
  | ok f =>
    have set := sets f rfl
    cases host <;> cases port <;> cases level <;> simp [Checked.and, Except.map, set]

/-- A field with the address of the database makes a difference to that setting only. -/
theorem ofFields_eq_map {fields plain : Fields} {url before : String}
    (others : ∀ name, name ≠ "database_url" → fields.lookup name = plain.lookup name)
    (given : field fields "database_url" Settings.default.databaseUrl Value.text = .ok url)
    (instead : field plain "database_url" Settings.default.databaseUrl Value.text = .ok before) :
    ofFields fields = (ofFields plain).map ({ · with databaseUrl := url }) := by
  have each {α : Type} (name : String) (apart : name ≠ "database_url") (otherwise : α)
      (read : Json → Except Reason α) : field fields name otherwise read = field plain name otherwise read :=
    field_congr (others name apart) otherwise read
  simp (disch := decide) only [ofFields, each, given, instead]
  apply and_databaseUrl
  intro f made
  -- the settings before the address are taken off from the last to the first
  iterate 13
    rw [Checked.and_eq_ok_iff] at made
    obtain ⟨_, _, made, _, rfl⟩ := made
  cases made
  intros
  rfl

namespace Environment

private theorem lookup_filterMap (give : String → List String → Option Json) {table : List (String × List String)}
    (distinct : (table.map Prod.fst).Nodup) (setting : String) :
    (table.filterMap fun (name, aliases) => (give name aliases).map (name, ·)).lookup setting =
      (table.lookup setting).bind (give setting) := by
  induction table with
  | nil => rfl
  | cons row rest ih =>
    obtain ⟨name, aliases⟩ := row
    obtain ⟨fresh, tail⟩ := List.nodup_cons.mp distinct
    rw [List.filterMap_cons, List.lookup_cons]
    by_cases same : setting = name
    · subst same
      have absent : rest.lookup setting = none := by
        rw [List.lookup_eq_none_iff]
        intro row member
        have apart : setting ≠ row.1 := by
          rintro rfl
          exact fresh (List.mem_map.mpr ⟨row, member, rfl⟩)
        simpa using apart
      cases given : give setting aliases with
      | none => simp [given, ih tail, absent]
      | some value => simp [given]
    · have apart : (setting == name) = false := by simpa using same
      cases given : give name aliases with
      | none => simp [given, ih tail, apart]
      | some value => simp [given, ih tail, apart, List.lookup_cons]

theorem lookup_fields (environment : Environment) (setting : String) :
    environment.fields.lookup setting =
      (names.lookup setting).bind fun aliases => (environment.value? setting aliases).map .text := by
  have distinct : (names.map Prod.fst).Nodup := by decide
  rw [← lookup_filterMap (fun setting aliases => (environment.value? setting aliases).map .text) distinct setting]
  simp [fields, Function.comp_def]

/-- The address of the database, in whatever way it is given. -/
def databaseUrl (environment : Environment) : String :=
  ((environment.pick? ["DATABASE_URL"]).or (environment.address?.map Address.url)).getD Settings.default.databaseUrl

theorem field_databaseUrl (environment : Environment) :
    field environment.fields "database_url" Settings.default.databaseUrl Value.text = .ok environment.databaseUrl := by
  have found : environment.fields.lookup "database_url" =
      ((environment.pick? ["DATABASE_URL"]).or (environment.address?.map Address.url)).map .text := by
    have aliases : names.lookup "database_url" = some ["DATABASE_URL"] := by decide
    rw [lookup_fields, aliases, Option.bind_some, value?, if_pos rfl]
    cases environment.pick? ["DATABASE_URL"] <;> rfl
  rw [field, found, databaseUrl]
  cases (environment.pick? ["DATABASE_URL"]).or (environment.address?.map Address.url) with
  | none => rfl
  | some url => simp [Value.text, Json.text, Json.asText?]

/-- Environments in which the same is found for all other settings give the same settings, but for the address of the
database. -/
theorem ofEnvironment_eq_map {left right : Environment}
    (same : ∀ row ∈ names, row.1 ≠ "database_url" → left.pick? row.2 = right.pick? row.2) :
    ofEnvironment left = (ofEnvironment right).map ({ · with databaseUrl := left.databaseUrl }) := by
  refine ofFields_eq_map ?_ left.field_databaseUrl right.field_databaseUrl
  intro name apart
  rw [lookup_fields, lookup_fields]
  cases found : names.lookup name with
  | none => rfl
  | some aliases =>
    obtain ⟨before, after, table, _⟩ := List.lookup_eq_some_iff.mp found
    have member : (name, aliases) ∈ names := table ▸ List.mem_append_right before List.mem_cons_self
    simp only [Option.bind_some, value?, same (name, aliases) member apart, if_neg apart]

theorem ofEnvironment_of_none {environment : Environment}
    (bare : ∀ row ∈ names, row.1 ≠ "database_url" → environment.pick? row.2 = none) :
    ofEnvironment environment = .ok { databaseUrl := environment.databaseUrl } := by
  have empty (aliases : List String) : pick? [] aliases = none := by simp [pick?]
  have mapped : ofEnvironment environment =
      (ofEnvironment []).map ({ · with databaseUrl := environment.databaseUrl }) :=
    ofEnvironment_eq_map fun row member apart => (bare row member apart).trans (empty row.2).symm
  exact mapped

theorem databaseUrl_of_accepted {environment : Environment} {settings : Settings}
    (accepted : ofEnvironment environment = .ok settings) : settings.databaseUrl = environment.databaseUrl := by
  have again : ofEnvironment environment =
      (ofEnvironment environment).map ({ · with databaseUrl := environment.databaseUrl }) :=
    ofEnvironment_eq_map fun _ _ _ => rfl
  rw [accepted] at again
  exact congrArg Settings.databaseUrl (Except.ok.inj again)

/-- The environment without a variable. -/
def without (name : String) (environment : Environment) : Environment := environment.filter (·.1 ≠ name)

/-- The environment with nothing in a variable. -/
def blank (name : String) (environment : Environment) : Environment := (name, "") :: environment.without name

theorem lookup_without (name other : String) (environment : Environment) :
    (environment.without name).lookup other = if other = name then none else environment.lookup other := by
  induction environment with
  | nil => simp [without]
  | cons row rest ih =>
    by_cases dropped : row.1 = name
    · have gone : without name (row :: rest) = without name rest := by simp [without, dropped]
      rw [gone, ih, List.lookup_cons]
      by_cases same : other = name
      · simp [same]
      · have apart : (other == row.1) = false := by simpa [dropped] using same
        simp [apart]
    · have kept : without name (row :: rest) = row :: without name rest := by simp [without, dropped]
      rw [kept, List.lookup_cons, List.lookup_cons, ih]
      by_cases here : other = row.1
      · have apart : other ≠ name := here ▸ dropped
        simp [here, dropped]
      · have apart : (other == row.1) = false := by simpa using here
        simp [apart]

theorem lookup_blank (name other : String) (environment : Environment) :
    (environment.blank name).lookup other = if other = name then some "" else environment.lookup other := by
  rw [blank, List.lookup_cons, lookup_without]
  by_cases same : other = name
  · simp [same]
  · have apart : (other == name) = false := by simpa using same
    simp [apart, same]

/-- Where one of several names is looked for that has a value, a blank variable is passed over. -/
theorem pick?_blank (name : String) (environment : Environment) (aliases : List String) :
    (environment.blank name).pick? aliases = (environment.without name).pick? aliases := by
  have each (other : String) : ((environment.blank name).lookup other).filter (!·.isEmpty) =
      ((environment.without name).lookup other).filter (!·.isEmpty) := by
    rw [lookup_blank, lookup_without]
    split <;> rfl
  simp only [pick?, each]

/-- The parts of an address that have a default of their own where they are not given. -/
def partNames : List String := ["DB_USER", "DB_PORT", "DB_NAME"]

theorem address?_blank {name : String} (whole : name ∉ partNames) (environment : Environment) :
    (environment.blank name).address? = (environment.without name).address? := by
  have part (other otherwise : String) (fits : other = name → otherwise = "") :
      ((environment.blank name).lookup other).getD otherwise =
        ((environment.without name).lookup other).getD otherwise := by
    rw [lookup_blank, lookup_without]
    split
    · next same => exact (fits same).symm
    · rfl
  have apart {other : String} (defaulted : other ∈ partNames) {otherwise : String} :
    other = name → otherwise = "" := by
    rintro rfl
    exact absurd defaulted whole
  simp only [address?, pick?_blank]
  rw [part "DB_USER" _ (apart (by decide)), part "DB_PASS" "" fun _ => rfl, part "DB_PORT" _ (apart (by decide)),
    part "DB_NAME" _ (apart (by decide))]

/-- What follows the scheme in an address. -/
def Address.body (address : Address) : List Char :=
  address.user.toList ++ ':' :: (address.password.toList ++ '@' :: (address.host.toList ++ ':' ::
    (address.port.toList ++ '/' :: address.database.toList)))

theorem Address.url_inj {address other : Address} : address.url = other.url ↔ address.body = other.body := by
  have written (address : Address) : address.url.toList = "postgresql://".toList ++ address.body := by
    have colon : ":".toList = [':'] := by rfl
    have sign : "@".toList = ['@'] := by rfl
    have slash : "/".toList = ['/'] := by rfl
    -- unfolded by hand, as the equation of the definition is slow to prove
    show ("postgresql://" ++ address.user ++ ":" ++ address.password ++ "@" ++ address.host ++ ":" ++ address.port ++
      "/" ++ address.database).toList = _
    simp only [String.toList_append, List.append_assoc, colon, sign, slash, List.cons_append, List.nil_append, body]
  rw [← String.toList_inj, written, written, List.append_cancel_left_eq]

theorem Address.length_body (address : Address) :
    address.body.length = address.user.toList.length + address.password.toList.length + address.host.toList.length +
      address.port.toList.length + address.database.toList.length + 4 := by
  simp only [body, List.length_append, List.length_cons]
  omega

theorem databaseUrl_of_parts {environment : Environment} {address : Address}
    (unset : environment.pick? ["DATABASE_URL"] = none) (parted : environment.address? = some address) :
    environment.databaseUrl = address.url := by
  rw [databaseUrl, unset, parted]
  rfl

/-- Without a part, the variables that are none are what they were. -/
theorem pick?_without {name other : String} (part : name ∈ partNames) (whole : other ∉ partNames)
    (environment : Environment) : (environment.without name).pick? [other] = environment.pick? [other] := by
  have apart : other ≠ name := fun same => whole (same ▸ part)
  simp only [pick?, List.findSome?_cons, lookup_without, if_neg apart, List.findSome?_nil]

/-- The parts of an address whose host is given. -/
theorem address?_of_host {environment : Environment} {host : String}
    (given : environment.pick? ["DB_HOST"] = some host) :
    environment.address? = some
      { user := (environment.lookup "DB_USER").getD "secretbroker"
        password := (environment.lookup "DB_PASS").getD ""
        host
        port := (environment.lookup "DB_PORT").getD "5432"
        database := (environment.lookup "DB_NAME").getD "secretbroker" } := by
  rw [address?, given]
  rfl

theorem address?_of_hostless {environment : Environment} (hostless : environment.pick? ["DB_HOST"] = none) :
    environment.address? = none := by
  rw [address?, hostless]
  rfl

private theorem length_part (name other otherwise : String) (environment : Environment) :
    (((environment.blank name).lookup other).getD otherwise).toList.length +
        (if other = name then otherwise.toList.length else 0) =
      (((environment.without name).lookup other).getD otherwise).toList.length := by
  rw [lookup_blank, lookup_without]
  split
  · exact Nat.zero_add _
  · exact Nat.add_zero _

/-- With a blank part an address is shorter than with the default for it. -/
theorem databaseUrl_blank_ne {name : String} {environment : Environment} (part : name ∈ partNames)
    (unset : environment.pick? ["DATABASE_URL"] = none) (hosted : environment.pick? ["DB_HOST"] ≠ none) :
    (environment.blank name).databaseUrl ≠ (environment.without name).databaseUrl := by
  obtain ⟨host, given⟩ := Option.ne_none_iff_exists'.mp hosted
  rw [← pick?_without part (by decide)] at unset given
  intro same
  rw [databaseUrl_of_parts unset (address?_of_host given)] at same
  rw [← pick?_blank] at unset given
  rw [databaseUrl_of_parts unset (address?_of_host given), Address.url_inj] at same
  have lengths := congrArg List.length same
  have user := length_part name "DB_USER" "secretbroker" environment
  have password := length_part name "DB_PASS" "" environment
  have port := length_part name "DB_PORT" "5432" environment
  have database := length_part name "DB_NAME" "secretbroker" environment
  have defaults : 0 < "secretbroker".toList.length ∧ 0 < "5432".toList.length := by decide
  simp only [Address.length_body] at lengths
  simp only [partNames, List.mem_cons, List.not_mem_nil, or_false] at part
  rcases part with rfl | rfl | rfl
  · rw [if_pos rfl] at user
    omega
  · rw [if_pos rfl] at port
    omega
  · rw [if_pos rfl] at database
    omega

theorem databaseUrl_blank {name : String} {environment : Environment}
    (other : ¬ (name ∈ partNames ∧ environment.pick? ["DATABASE_URL"] = none ∧ environment.pick? ["DB_HOST"] ≠ none)) :
    (environment.blank name).databaseUrl = (environment.without name).databaseUrl := by
  by_cases part : name ∈ partNames
  · rw [databaseUrl, databaseUrl, pick?_blank]
    cases unset : environment.pick? ["DATABASE_URL"] with
    | some url => rw [pick?_without part (by decide), unset, Option.some_or, Option.some_or]
    | none =>
      have hostless : environment.pick? ["DB_HOST"] = none := by
        cases hosted : environment.pick? ["DB_HOST"] with
        | none => rfl
        | some host => exact absurd ⟨part, unset, hosted ▸ Option.some_ne_none host⟩ other
      rw [← pick?_without part (by decide)] at hostless
      rw [address?_of_hostless hostless, address?_of_hostless ((pick?_blank name environment _).trans hostless)]
  · rw [databaseUrl, databaseUrl, pick?_blank, address?_blank part]

/-- A blank variable changes nothing but the address of the database, and that exactly where the address is put
together from parts and the variable is one of those with a default of their own. -/
theorem blank_eq_without_iff (environment : Environment) (name : String) :
    ofEnvironment (environment.blank name) =
        (ofEnvironment (environment.without name)).map
          ({ · with databaseUrl := (environment.blank name).databaseUrl }) ∧
      (ofEnvironment (environment.blank name) = ofEnvironment (environment.without name) ↔
        ¬ (name ∈ partNames ∧ environment.pick? ["DATABASE_URL"] = none ∧ environment.pick? ["DB_HOST"] ≠ none ∧
          ∃ settings, ofEnvironment (environment.without name) = .ok settings)) := by
  have mapped : ofEnvironment (environment.blank name) =
      (ofEnvironment (environment.without name)).map
        ({ · with databaseUrl := (environment.blank name).databaseUrl }) :=
    ofEnvironment_eq_map fun row _ _ => pick?_blank name environment row.2
  refine ⟨mapped, ?_⟩
  rw [mapped]
  cases accepted : ofEnvironment (environment.without name) with
  | error issues =>
    refine iff_of_true rfl ?_
    rintro ⟨_, _, _, settings, given⟩
    cases given
  | ok settings =>
    have url := databaseUrl_of_accepted accepted
    constructor
    · rintro same ⟨part, unset, hosted, _⟩
      have shared := congrArg Settings.databaseUrl (Except.ok.inj same)
      exact databaseUrl_blank_ne part unset hosted (shared.trans url)
    · intro other
      have shared : (environment.blank name).databaseUrl = settings.databaseUrl := by
        rw [url]
        exact databaseUrl_blank fun ⟨part, unset, hosted⟩ => other ⟨part, unset, hosted, settings, rfl⟩
      rw [shared]
      rfl

/-- A blank port leaves a gap in the address, where a port that is not given is the usual one. -/
theorem blank_port_ne_without :
    let environment : Environment := [("DB_HOST", "db")]
    ofEnvironment (environment.blank "DB_PORT") =
      .ok { databaseUrl := "postgresql://secretbroker:@db:/secretbroker" } ∧
      ofEnvironment (environment.without "DB_PORT") =
        .ok { databaseUrl := "postgresql://secretbroker:@db:5432/secretbroker" } ∧
      ofEnvironment (environment.blank "DB_PORT") ≠ ofEnvironment (environment.without "DB_PORT") := by
  intro environment
  have blank : (environment.blank "DB_PORT").databaseUrl = "postgresql://secretbroker:@db:/secretbroker" := by
    decide +kernel
  have without : (environment.without "DB_PORT").databaseUrl = "postgresql://secretbroker:@db:5432/secretbroker" := by
    decide +kernel
  have left := @ofEnvironment_of_none (environment.blank "DB_PORT") (by decide)
  have right := @ofEnvironment_of_none (environment.without "DB_PORT") (by decide)
  rw [blank] at left
  rw [without] at right
  refine ⟨left, right, ?_⟩
  rw [left, right]
  intro same
  have urls := congrArg Settings.databaseUrl (Except.ok.inj same)
  exact absurd urls (by decide)

end Environment
end ReadOnce.Settings
