import ReadOnce.Proofs.Json.Lexing

/-!
From tokens to values. The reader puts what a form stands for into the innermost open container, wherever the form
occurs, as long as the levels that are left suffice for it; so a document that fits is read as its value.
-/
namespace ReadOnce.Json

open Reader

variable {limits : Limits} {frames : List Frame}

private theorem textAllowed_ofString (limits : Limits) (text : String) :
    textAllowed limits (.ofString text) = true := by
  rw [textAllowed, WideText.toString?_ofString, Option.isSome_some, Bool.or_true]

private theorem Form.tokens_ne_endArray (form : Form) :
    ∃ token rest, form.tokens = token :: rest ∧ token ≠ .endArray := by
  cases form with
  | number number =>
    refine ⟨number.token, [], rfl, ?_⟩
    unfold Number.token
    split
    · exact Token.noConfusion
    · split <;> exact Token.noConfusion
  | word word => exact ⟨.word word.value, [], rfl, Token.noConfusion⟩
  | text phrase => exact ⟨.text (.ofString phrase.text), [], rfl, Token.noConfusion⟩
  | emptyArray | array => exact ⟨.beginArray, _, rfl, Token.noConfusion⟩
  | emptyObject | object => exact ⟨.beginObject, _, rfl, Token.noConfusion⟩

private theorem foldlM_firstItem (room : frames.length + 1 ≤ limits.levels) (form : Form) {items : Array Json} :
    form.tokens.foldlM (step limits) ⟨.array items :: frames, .firstItem⟩ =
      form.tokens.foldlM (step limits) ⟨.array items :: frames, .value⟩ := by
  obtain ⟨token, rest, same, other⟩ := form.tokens_ne_endArray
  have first : step limits ⟨.array items :: frames, .firstItem⟩ token =
      step limits ⟨.array items :: frames, .value⟩ token := by
    have shallow : ¬ limits.levels < frames.length + 1 := Nat.not_lt.mpr room
    cases token <;> first | exact absurd rfl other | exact if_neg shallow
  rw [same, List.foldlM_cons, List.foldlM_cons, first]

private theorem foldlM_cons_ok {reader next : Reader} {token : Token} {rest : List Token}
    (taken : step limits reader token = .ok next) :
    (token :: rest).foldlM (step limits) reader = rest.foldlM (step limits) next := by
  rw [List.foldlM_cons, taken]
  rfl

private theorem foldlM_append_ok {reader next : Reader} {tokens rest : List Token}
    (taken : tokens.foldlM (step limits) reader = .ok next) :
    (tokens ++ rest).foldlM (step limits) reader = rest.foldlM (step limits) next := by
  rw [List.foldlM_append, taken]
  rfl

private theorem step_text (text : String) :
    step limits ⟨frames, .value⟩ (.text (.ofString text)) = give frames (.text text) :=
  if_pos (textAllowed_ofString limits text)

private theorem step_beginArray (room : limits.countsEmpty = true → frames.length + 1 ≤ limits.levels) :
    step limits ⟨frames, .value⟩ .beginArray = .ok ⟨.array #[] :: frames, .firstItem⟩ := by
  apply if_neg
  intro full
  exact absurd full.2 (Nat.not_lt.mpr (room full.1))

private theorem step_beginObject (room : limits.countsEmpty = true → frames.length + 1 ≤ limits.levels) :
    step limits ⟨frames, .value⟩ .beginObject = .ok ⟨.object #[] :: frames, .firstName⟩ := by
  apply if_neg
  intro full
  exact absurd full.2 (Nat.not_lt.mpr (room full.1))

private theorem step_number {number : Number} (short : number.Fits limits) :
    step limits ⟨frames, .value⟩ number.token = give frames number.value := by
  have brief (held : limits.everyNumber = true ∨ (number.exponent = none ∧ number.fraction = [])) :
      checkLength limits number.whole = .ok () :=
    if_neg (Nat.not_lt.mpr (short held))
  have lenient (next : Except Refusal Reader) :
      (if limits.everyNumber = true then checkLength limits number.whole >>= fun _ => next else next) = next := by
    split
    · next every =>
      rw [brief (.inl every)]
      rfl
    · rfl
  unfold Number.value
  cases given : number.exponent with
  | some exponent =>
    simp only [Number.token, given, step, takeValue]
    exact lenient _
  | none =>
    by_cases whole : number.fraction = []
    · simp only [Number.token, given, whole, if_true, step, takeValue, brief (.inr ⟨given, whole⟩)]
      rfl
    · simp only [Number.token, given, if_neg whole, step, takeValue]
      exact lenient _

private theorem step_name {members : Array (WideText × Json)} {need : Need} (name : String)
    (named : need = .name ∨ need = .firstName ∧ frames.length + 1 ≤ limits.levels) :
    step limits ⟨.object members :: frames, need⟩ (.text (.ofString name)) =
      .ok ⟨.member members (.ofString name) :: frames, .colon⟩ := by
  have taken : takeName limits (.object members :: frames) (.text (.ofString name)) =
      .ok ⟨.member members (.ofString name) :: frames, .colon⟩ :=
    if_pos (textAllowed_ofString limits name)
  rcases named with rfl | ⟨rfl, room⟩
  · exact taken
  · exact (if_neg (Nat.not_lt.mpr room)).trans taken

private theorem foldlM_array {before after : Blanks} {first : Form} {more : Items}
    (level : frames.length + 1 ≤ limits.levels)
    (item : first.tokens.foldlM (step limits) ⟨.array #[] :: frames, .value⟩ = give (.array #[] :: frames) first.value)
    (items : more.tokens.foldlM (step limits) ⟨.array (#[].push first.value) :: frames, .separator⟩ =
      .ok ⟨.array (#[].push first.value ++ more.values) :: frames, .separator⟩) :
    (Form.array before first after more).tokens.foldlM (step limits) ⟨frames, .value⟩ =
      give frames (Form.array before first after more).value := by
  rw [← foldlM_firstItem level] at item
  rw [Form.tokens, foldlM_cons_ok (step_beginArray fun _ => level), foldlM_append_ok item, foldlM_append_ok items]
  have whole : (#[].push first.value ++ more.values).toList = first.value :: more.values := by simp
  rw [Form.value, ← whole]
  exact bind_pure (give frames (.arr _))

private theorem foldlM_object {heading : Heading} {before after : Blanks} {first : Form} {more : Members}
    (level : frames.length + 1 ≤ limits.levels)
    (member : first.tokens.foldlM (step limits) ⟨.member #[] (.ofString heading.name.text) :: frames, .value⟩ =
      give (.member #[] (.ofString heading.name.text) :: frames) first.value)
    (members : more.tokens.foldlM (step limits)
        ⟨.object (#[].push (.ofString heading.name.text, first.value)) :: frames, .separator⟩ =
      .ok ⟨.object (#[].push (WideText.ofString heading.name.text, first.value) ++ more.values) :: frames,
        .separator⟩) :
    (Form.object heading before first after more).tokens.foldlM (step limits) ⟨frames, .value⟩ =
      give frames (Form.object heading before first after more).value := by
  rw [Form.tokens, foldlM_cons_ok (step_beginObject fun _ => level), foldlM_cons_ok (step_name _ (.inr ⟨rfl, level⟩)),
    foldlM_cons_ok rfl, foldlM_append_ok member, foldlM_append_ok members]
  have whole : (#[].push (WideText.ofString heading.name.text, first.value) ++ more.values).toList =
      (.ofString heading.name.text, first.value) :: more.values := by simp
  rw [Form.value, ← whole]
  exact bind_pure (give frames (.obj _))

mutual

/-- A form is read as its value, which goes where a value is needed. -/
theorem Form.foldlM_tokens : (form : Form) → (frames : List Frame) →
    frames.length + form.levels limits ≤ limits.levels → form.Short limits →
    form.tokens.foldlM (step limits) ⟨frames, .value⟩ = give frames form.value
  | .word word, frames, _, _ => bind_pure (give frames word.value)
  | .number number, frames, _, short => by
    rw [Form.tokens, List.foldlM_cons, step_number short]
    exact bind_pure (give frames number.value)
  | .text phrase, frames, _, _ => by
    rw [Form.tokens, List.foldlM_cons, step_text]
    exact bind_pure (give frames (.text phrase.text))
  | .emptyArray inside, frames, room, _ => by
    have level (counts : limits.countsEmpty = true) : frames.length + 1 ≤ limits.levels := by
      rwa [Form.levels, if_pos counts] at room
    rw [Form.tokens, foldlM_cons_ok (step_beginArray level)]
    exact bind_pure (give frames (.arr []))
  | .array before first after more, frames, room, short => by
    rw [Form.levels] at room
    obtain ⟨shortFirst, shortMore⟩ := short
    have level : frames.length + 1 ≤ limits.levels := by omega
    have inside : frames.length + 1 + first.levels limits ≤ limits.levels := by omega
    have item := Form.foldlM_tokens first (.array #[] :: frames) inside shortFirst
    have items := Items.foldlM_tokens more frames (#[].push first.value) (by omega) shortMore
    exact foldlM_array level item items
  | .emptyObject inside, frames, room, _ => by
    have level (counts : limits.countsEmpty = true) : frames.length + 1 ≤ limits.levels := by
      rwa [Form.levels, if_pos counts] at room
    rw [Form.tokens, foldlM_cons_ok (step_beginObject level)]
    exact bind_pure (give frames (.obj []))
  | .object heading before first after more, frames, room, short => by
    rw [Form.levels] at room
    obtain ⟨shortFirst, shortMore⟩ := short
    have level : frames.length + 1 ≤ limits.levels := by omega
    have inside : frames.length + 1 + first.levels limits ≤ limits.levels := by omega
    have member := Form.foldlM_tokens first (.member #[] (.ofString heading.name.text) :: frames) inside shortFirst
    have members :=
      Members.foldlM_tokens more frames (#[].push (.ofString heading.name.text, first.value)) (by omega) shortMore
    exact foldlM_object level member members

theorem Items.foldlM_tokens : (items : Items) → (frames : List Frame) → (done : Array Json) →
    frames.length + 1 + items.levels limits ≤ limits.levels → items.Short limits →
    items.tokens.foldlM (step limits) ⟨.array done :: frames, .separator⟩ =
      .ok ⟨.array (done ++ items.values) :: frames, .separator⟩
  | .none, frames, done, _, _ => by
    rw [Items.values, Array.appendList_nil]
    rfl
  | .item before form after more, frames, done, room, short => by
    rw [Items.levels] at room
    obtain ⟨shortForm, shortMore⟩ := short
    have inside : frames.length + 1 + form.levels limits ≤ limits.levels := by omega
    have item := Form.foldlM_tokens form (.array done :: frames) inside shortForm
    rw [Items.tokens, foldlM_cons_ok rfl, foldlM_append_ok item,
      Items.foldlM_tokens more frames (done.push form.value) (by omega) shortMore]
    simp [Items.values]

theorem Members.foldlM_tokens : (members : Members) → (frames : List Frame) → (done : Array (WideText × Json)) →
    frames.length + 1 + members.levels limits ≤ limits.levels → members.Short limits →
    members.tokens.foldlM (step limits) ⟨.object done :: frames, .separator⟩ =
      .ok ⟨.object (done ++ members.values) :: frames, .separator⟩
  | .none, frames, done, _, _ => by
    rw [Members.values, Array.appendList_nil]
    rfl
  | .member heading before form after more, frames, done, room, short => by
    rw [Members.levels] at room
    obtain ⟨shortForm, shortMore⟩ := short
    have inside : frames.length + 1 + form.levels limits ≤ limits.levels := by omega
    have member := Form.foldlM_tokens form (.member done (.ofString heading.name.text) :: frames) inside shortForm
    rw [Members.tokens, foldlM_cons_ok rfl, foldlM_cons_ok (step_name _ (.inl rfl)), foldlM_cons_ok rfl,
      foldlM_append_ok member,
      Members.foldlM_tokens more frames (done.push (.ofString heading.name.text, form.value)) (by omega) shortMore]
    simp [Members.values]

end

variable {document : Document}

theorem Document.read_text (fits : document.Fits limits) :
    read limits (.ofString document.text) = .ok document.root.value := by
  have room : ([] : List Frame).length + document.root.levels limits ≤ limits.levels := by
    rw [List.length_nil, Nat.zero_add]
    exact fits.shallow
  rw [read, document.ofText_text, start, Form.foldlM_tokens document.root [] room fits.short]
  rfl

private theorem Members.values_eq_map : (members : Members) →
    members.values = members.toList.map fun member => (.ofString member.1, member.2.value)
  | .none => rfl
  | .member heading _ form _ more => by
    rw [Members.values, Members.toList, List.map_cons, Members.values_eq_map more]

theorem Form.value_of_members? {form : Form} {members : List (String × Form)} (object : form.members? = some members) :
    form.value = .obj (members.map fun member => (.ofString member.1, member.2.value)) := by
  cases form with
  | emptyObject =>
    cases object
    rfl
  | object heading before first after more =>
    cases object
    rw [Form.value, List.map_cons, Members.values_eq_map]
  | word | number | text | emptyArray | array => cases object

/-- A name stands for the last member that has it. -/
theorem lookup?_map (members : List (String × Form)) (name : String) :
    lookup? name (members.map fun member => (.ofString member.1, member.2.value)) =
      (members.filter (·.1 = name)).getLast?.map fun member => member.2.value := by
  have same (member : String × Form) :
      decide (WideText.ofString member.1 = WideText.ofString name) = decide (member.1 = name) :=
    decide_eq_decide.mpr WideText.ofString_inj
  rw [lookup?, ← List.map_reverse, List.find?_map, Option.map_map, ← List.head?_filter, List.filter_reverse,
    List.head?_reverse]
  simp only [Function.comp_def, same]

theorem Form.value_of_text? {form : Form} {text : String} (given : form.text? = some text) :
    form.value = Json.text text := by
  cases form with
  | text phrase =>
    cases given
    rfl
  | word | number | emptyArray | array | emptyObject | object => cases given

theorem Form.value_ne_str {form : Form} (other : form.text? = none) (text : WideText) : form.value ≠ .str text := by
  cases form with
  | text phrase => cases other
  | word word =>
    rw [Form.value]
    cases word <;> exact Json.noConfusion
  | number number =>
    rw [Form.value, Number.value]
    split <;> exact Json.noConfusion
  | emptyArray | array | emptyObject | object => exact Json.noConfusion

end ReadOnce.Json
