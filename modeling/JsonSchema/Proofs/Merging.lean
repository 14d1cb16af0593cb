import Mathlib.Data.List.Basic
import JsonSchema.Options.Construction
import JsonSchema.Proofs.Trace

/-! Merging of options. Settings act on options: to merge some and then others is to merge what
both come to, where the last setting of a field counts, and what options hold is put into form
once and then stays as it is. -/
namespace JsonSchema.Options

/-- The settings under the fields that their names denote, if each of them denotes one. -/
def fieldwise? (settings : Settings) : Option Normalized :=
  settings.mapM fun (name, setting) => (Field.ofName? name).map (·, setting)

/-- Of the settings of each field the last one. -/
def latest : Normalized → Normalized
  | [] => []
  | (field, setting) :: rest =>
    if (rest.lookup field).isSome then latest rest else (field, setting) :: latest rest

/-- One setting for each field that is named, the last one, under the name that options have for
the field. -/
def canonical? (settings : Settings) : Option Settings :=
  (fieldwise? settings).map fun entries =>
    (latest entries).map fun (field, setting) => (field.name, setting)

/-- Whether two options hold the same in a field. -/
def AgreeOn (options options' : Options) : Field → Prop
  | .validateFormat => options'.validateFormat = options.validateFormat
  | .additionalProperties => options'.additionalProperties = options.additionalProperties
  | .additionalItems => options'.additionalItems = options.additionalItems
  | .omitProperties => options'.omitProperties = options.omitProperties
  | .omitRefs => options'.omitRefs = options.omitRefs
  | .onError => options'.hook = options.hook
  | .definitions => options'.definitions = options.definitions
  | .maxDepth => options'.maxDepth = options.maxDepth

/-! Names. -/

theorem isSome_lookup_reverse (entries : Normalized) (field : Field) :
    (entries.reverse.lookup field).isSome = (entries.lookup field).isSome := by
  rw [Bool.eq_iff_iff, List.lookup_isSome_iff, List.lookup_isSome_iff]
  simp only [List.mem_reverse]

/-- What counts for a field is what comes last. -/
theorem lookup_latest (entries : Normalized) (field : Field) :
    (latest entries).lookup field = entries.reverse.lookup field := by
  induction entries with
  | nil => rfl
  | cons head rest ih =>
    obtain ⟨other, setting⟩ := head
    rw [List.reverse_cons, List.lookup_append, ← ih, latest]
    by_cases hfield : field = other
    · subst hfield
      have hlater := isSome_lookup_reverse rest field
      rw [← ih] at hlater
      cases hlatest : (latest rest).lookup field <;> rw [hlatest] at hlater
      · rw [← hlater]
        simp
      · rw [← hlater]
        simpa using hlatest
    · have hother : (field == other) = false := beq_eq_false_iff_ne.mpr hfield
      rw [List.lookup_cons, hother, List.lookup_nil, Option.or_none]
      split
      · rfl
      · rw [List.lookup_cons, hother]

theorem latest_nodup (entries : Normalized) : ((latest entries).map Prod.fst).Nodup := by
  induction entries with
  | nil => exact .nil
  | cons head rest ih =>
    obtain ⟨field, setting⟩ := head
    rw [latest]
    split
    · exact ih
    · rename_i hnone
      rw [List.map_cons, List.nodup_cons]
      refine ⟨fun hmem => hnone ?_, ih⟩
      rw [← isSome_lookup_reverse, ← lookup_latest, List.lookup_isSome_iff]
      obtain ⟨entry, hentry, hfield⟩ := List.mem_map.mp hmem
      exact ⟨entry, hentry, beq_iff_eq.mpr hfield.symm⟩

/-- Where each field is named once, every setting counts. -/
theorem latest_of_nodup {entries : Normalized} (distinct : (entries.map Prod.fst).Nodup) :
    latest entries = entries := by
  induction entries with
  | nil => rfl
  | cons head rest ih =>
    obtain ⟨field, setting⟩ := head
    rw [List.map_cons, List.nodup_cons] at distinct
    rw [latest, ih distinct.2, if_neg]
    rw [List.lookup_isSome_iff]
    rintro ⟨entry, hentry, hfield⟩
    exact distinct.1 (List.mem_map.mpr ⟨entry, hentry, (beq_iff_eq.mp hfield).symm⟩)

theorem fieldwise?_cons (name : String) (setting : Setting) (rest : Settings) :
    fieldwise? ((name, setting) :: rest) =
      (Field.ofName? name).bind fun field => (fieldwise? rest).map ((field, setting) :: ·) := by
  rw [fieldwise?, List.mapM_cons, ← fieldwise?]
  dsimp only
  cases Field.ofName? name <;> cases fieldwise? rest <;> rfl

theorem fieldwise?_append {settings settings' : Settings} {entries entries' : Normalized}
    (h : fieldwise? settings = some entries) (h' : fieldwise? settings' = some entries') :
    fieldwise? (settings ++ settings') = some (entries ++ entries') := by
  rw [fieldwise?] at h h' ⊢
  rw [List.mapM_append, h, h']
  rfl

theorem fieldwise?_names (entries : Normalized) :
    fieldwise? (entries.map fun (field, setting) => (field.name, setting)) = some entries := by
  induction entries with
  | nil => rfl
  | cons head rest ih =>
    rw [List.map_cons, fieldwise?_cons, ih, Field.ofName?_name]
    rfl

/-- By induction on the settings: those that are assigned come after what there is of other fields. -/
theorem normalizeFrom_eq {settings : Settings} {entries : Normalized}
    (h : fieldwise? settings = some entries) (done : Normalized) :
    normalizeFrom done settings = .ok
      (done.filter (fun entry => (entries.lookup entry.1).isNone) ++ latest entries) := by
  induction settings generalizing done entries with
  | nil =>
    cases h
    simp [normalizeFrom, latest]
  | cons head rest ih =>
    obtain ⟨name, setting⟩ := head
    rw [fieldwise?_cons, Option.bind_eq_some_iff] at h
    obtain ⟨field, hfield, h⟩ := h
    obtain ⟨others, hothers, rfl⟩ := Option.map_eq_some_iff.mp h
    have hdone : (done.filter (·.1 ≠ field)).filter (fun entry => (others.lookup entry.1).isNone) =
        done.filter fun entry => (((field, setting) :: others).lookup entry.1).isNone := by
      rw [List.filter_filter]
      refine List.filter_congr fun entry _ => ?_
      by_cases hentry : entry.1 = field
      · simp [hentry]
      · have hother : (entry.1 == field) = false := beq_eq_false_iff_ne.mpr hentry
        simp [List.lookup_cons, hother, hentry]
    rw [normalizeFrom, hfield]
    dsimp only
    rw [ih hothers, assign, List.filter_append, hdone, List.append_assoc, latest]
    cases hlater : others.lookup field <;> simp [hlater]

theorem normalize_eq {settings : Settings} {entries : Normalized}
    (h : fieldwise? settings = some entries) : normalize settings = .ok (latest entries) := by
  rw [normalize, normalizeFrom_eq h]
  rfl

/-- Settings can be normalized only if every name denotes a field. -/
theorem fieldwise?_of_normalizeFrom {settings : Settings} {done normalized : Normalized}
    (h : normalizeFrom done settings = .ok normalized) :
    ∃ entries, fieldwise? settings = some entries := by
  induction settings generalizing done with
  | nil => exact ⟨[], rfl⟩
  | cons head rest ih =>
    obtain ⟨name, setting⟩ := head
    rw [normalizeFrom] at h
    rw [fieldwise?_cons]
    cases hfield : Field.ofName? name with
    | none =>
      rw [hfield] at h
      cases h
    | some field =>
      rw [hfield] at h
      obtain ⟨entries, hentries⟩ := ih h
      exact ⟨(field, setting) :: entries, by rw [hentries]; rfl⟩

/-- Settings that are merged are named, and what they come to is what the copy is made with. -/
theorem merge_ok {options merged : Options} {settings : Settings}
    (h : options.merge settings = .ok merged) :
    ∃ entries, fieldwise? settings = some entries ∧
      construct (options.arguments.changed (latest entries)) = .ok merged := by
  rw [merge] at h
  cases hnormalized : normalize settings with
  | error f =>
    rw [hnormalized] at h
    cases h
  | ok normalized =>
    obtain ⟨entries, hentries⟩ := fieldwise?_of_normalizeFrom hnormalized
    refine ⟨entries, hentries, ?_⟩
    rw [normalize_eq hentries] at h
    rw [← apply_eq_construct]
    exact h

theorem merge_eq {options : Options} {settings : Settings} {entries : Normalized}
    (h : fieldwise? settings = some entries) :
    options.merge settings = construct (options.arguments.changed (latest entries)) := by
  rw [merge, normalize_eq h, ← apply_eq_construct]
  rfl

/-! Values. -/

/-- What is kept is put into the form that it has. -/
theorem Supplied.formed_changed {raw held : Type} {form : raw → Except Fault held}
    {supplied : Supplied raw held} {value : held} (h : supplied.formed form = .ok value)
    (given : Option raw) :
    ((given.map fresh).getD (kept value)).formed form =
      ((given.map fresh).getD supplied).formed form := by
  cases given with
  | none => exact h.symm
  | some _ => rfl

/-- Options that have been made hand on what they were made of, put into form. -/
theorem construct_ok {arguments : Arguments} {options : Options}
    (h : construct arguments = .ok options) :
    arguments.omitProperties.formed (fun node => names? node.json) = .ok options.omitProperties ∧
      arguments.definitions.formed table? = .ok options.definitions ∧
      arguments.onError.formed hook? = .ok options.hook ∧
      options.arguments = { arguments with
        omitProperties := .kept options.omitProperties
        onError := .kept options.hook
        definitions := .kept options.definitions } := by
  rw [construct] at h
  cases hnames : arguments.omitProperties.formed fun node => names? node.json with
  | error f =>
    rw [hnames] at h
    cases h
  | ok names =>
    cases htable : arguments.definitions.formed table? with
    | error f =>
      rw [hnames, htable] at h
      cases h
    | ok table =>
      cases hhook : arguments.onError.formed hook? with
      | error f =>
        rw [hnames, htable, hhook] at h
        cases h
      | ok hook =>
        rw [hnames, htable, hhook] at h
        cases h
        exact ⟨rfl, rfl, rfl, rfl⟩

/-- A copy with changes comes to the same whether or not the values have been put into form. -/
theorem construct_changed_of_ok {arguments : Arguments} {options : Options}
    (h : construct arguments = .ok options) (changes : Normalized) :
    construct (options.arguments.changed changes) = construct (arguments.changed changes) := by
  obtain ⟨hnames, htable, hhook, harguments⟩ := construct_ok h
  rw [harguments]
  simp only [construct, Arguments.changed, Supplied.formed_changed hnames,
    Supplied.formed_changed htable, Supplied.formed_changed hhook]

theorem construct_arguments (options : Options) : construct options.arguments = .ok options :=
  rfl

/-- Only what counts for each field makes a difference. -/
theorem Arguments.changed_congr {changes changes' : Normalized}
    (h : ∀ field, changes'.lookup field = changes.lookup field) (arguments : Arguments) :
    arguments.changed changes' = arguments.changed changes := by
  simp only [changed, nodeFor, jsonFor, givenNode?, h]

/-- Hooks are given for nothing else than to be told. -/
def HooksInPlace (settings : Settings) : Prop :=
  ∀ name hook, (name, .hook hook) ∈ settings → Field.ofName? name = some .onError

/-- Changes and then others are what comes last for each field. -/
theorem Arguments.changed_changed {changes changes' both : Normalized}
    (given : ∀ field setting, field ≠ .onError → changes'.lookup field = some setting →
      (node? setting).isSome)
    (h : ∀ field, both.lookup field = (changes'.lookup field).or (changes.lookup field))
    (arguments : Arguments) :
    (arguments.changed changes).changed changes' = arguments.changed both := by
  have hgiven (field : Field) (other : field ≠ .onError) :
      givenNode? both field = (givenNode? changes' field).or (givenNode? changes field) := by
    rw [givenNode?, givenNode?, givenNode?, h]
    cases hsetting : changes'.lookup field with
    | none => rfl
    | some setting =>
      obtain ⟨node, hnode⟩ := Option.isSome_iff_exists.mp (given field setting other hsetting)
      rw [Option.some_or, Option.bind_some, hnode]
      rfl
  simp only [changed, nodeFor, jsonFor, hgiven, h, ne_eq, reduceCtorEq, not_false_eq_true,
    Option.map_or, Option.getD_or]

/-- Settings that are given under a field count for it unless later ones do. -/
theorem lookup_latest_append (entries entries' : Normalized) (field : Field) :
    (latest (entries ++ entries')).lookup field =
      ((latest entries').lookup field).or ((latest entries).lookup field) := by
  rw [lookup_latest, lookup_latest, lookup_latest, List.reverse_append, List.lookup_append]

/-- A setting that counts is among those that are given, under a name of its field. -/
theorem exists_of_lookup_latest {settings : Settings} {entries : Normalized}
    (h : fieldwise? settings = some entries) {field : Field} {setting : Setting}
    (hlookup : (latest entries).lookup field = some setting) :
    ∃ name, (name, setting) ∈ settings ∧ Field.ofName? name = some field := by
  rw [lookup_latest] at hlookup
  obtain ⟨before, after, hentries, _⟩ := List.lookup_eq_some_iff.mp hlookup
  have hmem : (field, setting) ∈ entries := by
    rw [← List.mem_reverse, hentries]
    simp
  clear hlookup hentries
  induction settings generalizing entries with
  | nil =>
    cases h
    cases hmem
  | cons head rest ih =>
    obtain ⟨name, first⟩ := head
    rw [fieldwise?_cons, Option.bind_eq_some_iff] at h
    obtain ⟨other, hother, h⟩ := h
    obtain ⟨others, hothers, rfl⟩ := Option.map_eq_some_iff.mp h
    rcases List.mem_cons.mp hmem with heq | hrest
    · cases heq
      exact ⟨name, List.mem_cons_self, hother⟩
    · obtain ⟨later, hlater, hfield⟩ := ih hothers hrest
      exact ⟨later, List.mem_cons_of_mem _ hlater, hfield⟩

/-- To merge some settings and then others is to merge both at once. -/
theorem merge_merge {options first : Options} {settings settings' : Settings}
    (h : options.merge settings = .ok first) {entries' : Normalized}
    (h' : fieldwise? settings' = some entries') (hooks : HooksInPlace settings') :
    first.merge settings' = options.merge (settings ++ settings') := by
  obtain ⟨entries, hentries, hfirst⟩ := merge_ok h
  rw [merge_eq h', merge_eq (fieldwise?_append hentries h'), construct_changed_of_ok hfirst,
    Arguments.changed_changed ?given (lookup_latest_append entries entries')]
  intro field setting other hlookup
  obtain ⟨name, hmem, hname⟩ := exists_of_lookup_latest h' hlookup
  cases setting with
  | given node => rfl
  | hook hook =>
    have hfield := hooks name hook hmem
    rw [hname, Option.some.injEq] at hfield
    exact absurd hfield other

theorem fieldwise?_canonical {settings canonical : Settings}
    (h : canonical? settings = some canonical) :
    ∃ entries, fieldwise? settings = some entries ∧ fieldwise? canonical = some (latest entries) := by
  obtain ⟨entries, hentries, rfl⟩ := Option.map_eq_some_iff.mp h
  exact ⟨entries, hentries, fieldwise?_names _⟩

/-- What settings come to is merged like the settings. -/
theorem merge_canonical {settings canonical : Settings} (h : canonical? settings = some canonical)
    (options : Options) : options.merge canonical = options.merge settings := by
  obtain ⟨entries, hentries, hcanonical⟩ := fieldwise?_canonical h
  rw [merge_eq hcanonical, merge_eq hentries, latest_of_nodup (latest_nodup entries)]

theorem canonical?_canonical {settings canonical : Settings}
    (h : canonical? settings = some canonical) : canonical? canonical = some canonical := by
  obtain ⟨entries, hentries, rfl⟩ := Option.map_eq_some_iff.mp h
  rw [canonical?, fieldwise?_names, Option.map_some, latest_of_nodup (latest_nodup entries)]

/-- What the fields that are not named hold is handed on. -/
theorem agreeOn_of_unnamed {options merged : Options} {settings : Settings}
    (h : options.merge settings = .ok merged) {field : Field}
    (unnamed : ∀ name setting, (name, setting) ∈ settings → Field.ofName? name ≠ some field) :
    options.AgreeOn merged field := by
  obtain ⟨entries, hentries, hmerged⟩ := merge_ok h
  have hnone : (latest entries).lookup field = none := by
    rw [Option.eq_none_iff_forall_ne_some]
    intro setting hlookup
    obtain ⟨name, hmem, hname⟩ := exists_of_lookup_latest hentries hlookup
    exact unnamed name setting hmem hname
  have hgiven : givenNode? (latest entries) field = none := by
    rw [givenNode?, hnone]
    rfl
  obtain ⟨hnames, htable, hhook, harguments⟩ := construct_ok hmerged
  simp only [arguments, Arguments.changed, Arguments.mk.injEq] at hnames htable hhook harguments
  obtain ⟨hformat, hproperties, hitems, -, hrefs, -, -, hdepth⟩ := harguments
  cases field with
  | validateFormat => simpa [AgreeOn, jsonFor, hgiven] using hformat
  | additionalProperties => simpa [AgreeOn, nodeFor, hgiven] using hproperties
  | additionalItems => simpa [AgreeOn, nodeFor, hgiven] using hitems
  | omitProperties => simpa [AgreeOn, hgiven, Supplied.formed] using hnames.symm
  | omitRefs => simpa [AgreeOn, jsonFor, hgiven] using hrefs
  | onError => simpa [AgreeOn, hnone, Supplied.formed] using hhook.symm
  | definitions => simpa [AgreeOn, hgiven, Supplied.formed] using htable.symm
  | maxDepth => simpa [AgreeOn, jsonFor, hgiven] using hdepth

/-- To merge settings a second time changes nothing. -/
theorem merge_self {options merged : Options} {settings : Settings}
    (h : options.merge settings = .ok merged) : merged.merge settings = .ok merged := by
  obtain ⟨entries, hentries, hmerged⟩ := merge_ok h
  have hsame : (options.arguments.changed (latest entries)).changed (latest entries) =
      options.arguments.changed (latest entries) := by
    have hself {α : Type} (found : Option α) (a : α) :
        found.getD (found.getD a) = found.getD a := by
      cases found <;> rfl
    simp only [Arguments.changed, nodeFor, jsonFor, hself]
  rw [merge_eq hentries, construct_changed_of_ok hmerged, hsame, hmerged]

/-- The standard options are what the constructor makes of nothing. -/
theorem construct_default : construct .default = .ok standard :=
  rfl

/-- Options are made of settings alone as if these were merged into the standard ones. -/
theorem ofSettings_eq (settings : Settings) : ofSettings settings = standard.merge settings := by
  rw [ofSettings, merge]
  congr 1
  funext changes
  rw [apply_eq_construct, construct_changed_of_ok construct_default]

/-- Settings act on options. To merge some and then others is to merge what they come to together:
for each field the last setting, under the name of the field. Fields that are not named keep what
they hold. What settings come to comes to itself, what options hold is put into the form that it
has, and to merge the same settings again changes nothing. And a validation with settings has the
outcome of a validation with the options that are made of them. -/
theorem merge_acts :
    (∀ {options first last : Options} {settings settings' : Settings}, HooksInPlace settings' →
      options.merge settings = .ok first → first.merge settings' = .ok last →
      ∃ both, canonical? (settings ++ settings') = some both ∧ options.merge both = .ok last ∧
        (∀ field, (∀ name setting, (name, setting) ∈ settings ++ settings' →
          Field.ofName? name ≠ some field) → options.AgreeOn last field) ∧
        canonical? both = some both ∧ construct last.arguments = .ok last ∧
        last.merge both = .ok last) ∧
    ∀ (settings : Settings) (built : Options), ofSettings settings = .ok built →
      ∀ schema value heard, (validate schema value (.settings settings)).on heard =
        (validate schema value (.built built)).on heard := by
  constructor
  · intro options first last settings settings' hooks hfirst hlast
    obtain ⟨entries, hentries, _⟩ := merge_ok hfirst
    obtain ⟨entries', hentries', _⟩ := merge_ok hlast
    have hmerged : options.merge (settings ++ settings') = .ok last :=
      (merge_merge hfirst hentries' hooks).symm.trans hlast
    obtain ⟨both, hboth⟩ : ∃ both, canonical? (settings ++ settings') = some both :=
      ⟨_, congrArg (Option.map _) (fieldwise?_append hentries hentries')⟩
    have hcanonical : options.merge both = .ok last := (merge_canonical hboth options).trans hmerged
    exact ⟨both, hboth, hcanonical, fun field unnamed => agreeOn_of_unnamed hmerged unnamed,
      canonical?_canonical hboth, construct_arguments last, merge_self hcanonical⟩
  · intro settings built hbuilt schema value heard
    rw [ofSettings_eq] at hbuilt
    have hsame : (Given.settings settings).options = (Given.built built).options := hbuilt
    rw [validate_congr hsame]

theorem merge_acts_spelled_both_ways :
    let names := Setting.given ⟨.arr [.str "id", .str "x", .str "id"], none⟩
    let limit := Setting.given ⟨.int 7, none⟩
    let yes := Setting.given ⟨.bool true, none⟩
    let no := Setting.given ⟨.bool false, none⟩
    let settings : Settings := [("omitProperties", names), ("omit_refs", yes), ("max_depth", yes),
      ("maxDepth", limit)]
    let settings' : Settings := [("omitRefs", no), ("on_error", .hook .recording)]
    HooksInPlace settings' ∧ ∃ first last, standard.merge settings = .ok first ∧
      first.merge settings' = .ok last ∧
      standard.merge [("omit_properties", names), ("max_depth", limit), ("omit_refs", no),
        ("on_error", .hook .recording)] = .ok last ∧
      last.omitProperties = some [.str "id", .str "x"] ∧ last.definitions = [] ∧
      ofSettings settings = .ok first ∧ ∀ schema value : Json,
        (validate schema value (.settings settings)).on [] =
          (validate schema value (.built first)).on [] := by
  intro names limit yes no settings settings'
  have hooks : HooksInPlace settings' := by
    intro name hook hmem
    simp only [settings', no, List.mem_cons, List.not_mem_nil, or_false, Prod.mk.injEq, reduceCtorEq,
      and_false, false_or] at hmem
    rw [hmem.1]
    rfl
  obtain ⟨first, hfirst⟩ : ∃ first, standard.merge settings = .ok first := ⟨_, rfl⟩
  obtain ⟨last, hlast, hnames⟩ : ∃ last, first.merge settings' = .ok last ∧
      last.omitProperties = some [.str "id", .str "x"] := by
    cases hfirst
    exact ⟨_, rfl, rfl⟩
  obtain ⟨both, hboth, hmerged, hkept, -⟩ := merge_acts.1 hooks hfirst hlast
  have hcanonical : both = [("omit_properties", names), ("max_depth", limit), ("omit_refs", no),
      ("on_error", .hook .recording)] := (Option.some.inj hboth).symm
  have hunnamed : ∀ name ∈ (settings ++ settings').map Prod.fst,
      Field.ofName? name ≠ some .definitions := by
    decide
  have hdefinitions : last.definitions = [] :=
    hkept .definitions fun _ _ hmem => hunnamed _ (List.mem_map_of_mem hmem)
  have hmade : ofSettings settings = .ok first := hfirst
  exact ⟨hooks, first, last, hfirst, hlast, hcanonical ▸ hmerged, hnames, hdefinitions, hmade,
    fun schema value => merge_acts.2 settings first hmade schema value []⟩

end JsonSchema.Options
