import JsonSchema.Proofs.Answer
import JsonSchema.Validate

/-! How a validation starts, and what it comes to from there. -/
namespace JsonSchema

namespace Options

theorem normalizeFrom_error {done : Normalized} {given : Settings} {f : Fault}
    (h : normalizeFrom done given = .error f) : ¬ f.OfRun := by
  induction given generalizing done with
  | nil => cases h
  | cons head rest ih =>
    obtain ⟨name, setting⟩ := head
    rw [normalizeFrom] at h
    cases hname : Field.ofName? name with
    | none =>
      rw [hname] at h
      cases h
      exact id
    | some field =>
      rw [hname] at h
      exact ih h

theorem omittedFor?_error {settings : Normalized} {current : Option (List Json)} {f : Fault}
    (h : omittedFor? settings current = .error f) : ¬ f.OfRun := by
  unfold omittedFor? at h
  split at h
  · unfold names? at h
    split at h
    · cases h
    · cases h
      exact id
    · split at h <;> cases h
      exact id
    · cases h
    · cases h
      exact id
  · cases h

theorem tableFor?_error {settings : Normalized} {current : Definitions} {f : Fault}
    (h : tableFor? settings current = .error f) : ¬ f.OfRun := by
  unfold tableFor? at h
  split at h
  · unfold table? at h
    split at h <;> cases h
    exact id
  · cases h

theorem hookFor?_error {settings : Normalized} {current : Option Hook} {f : Fault}
    (h : hookFor? settings current = .error f) : ¬ f.OfRun := by
  unfold hookFor? at h
  split at h
  · unfold hook? at h
    split at h <;> cases h
    exact id
  · cases h

theorem apply_error {options : Options} {settings : Normalized} {f : Fault}
    (h : options.apply settings = .error f) : ¬ f.OfRun := by
  unfold apply at h
  cases homitted : omittedFor? settings options.omitProperties with
  | error g =>
    rw [homitted] at h
    cases h
    exact omittedFor?_error homitted
  | ok omitted =>
  cases hdefinitions : tableFor? settings options.definitions with
  | error g =>
    rw [homitted, hdefinitions] at h
    cases h
    exact tableFor?_error hdefinitions
  | ok definitions =>
  cases hhook : hookFor? settings options.hook with
  | error g =>
    rw [homitted, hdefinitions, hhook] at h
    cases h
    exact hookFor?_error hhook
  | ok hook =>
    rw [homitted, hdefinitions, hhook] at h
    cases h

end Options

theorem Given.options_error {given : Given} {f : Fault} (h : given.options = .error f) :
    ¬ f.OfRun := by
  cases given with
  | absent => cases h
  | settings given =>
    change (Options.normalize given >>= Options.standard.apply) = _ at h
    cases hnormalized : Options.normalize given with
    | error g =>
      rw [hnormalized] at h
      cases h
      exact Options.normalizeFrom_error hnormalized
    | ok normalized =>
      rw [hnormalized] at h
      exact Options.apply_error h
  | built options => cases h
  | unusable json =>
    cases h
    exact id

theorem rootDefinitions?_eq {schema : Node} {extra : Definitions}
    (h : rootDefinitions? schema = .ok extra) : extra = Check.declared schema := by
  unfold rootDefinitions? Node.value at h
  cases hjson : schema.json with
  | obj members =>
    rw [hjson] at h
    dsimp only at h
    cases hlookup : members.lookup "definitions" with
    | none =>
      rw [hlookup] at h
      cases h
      simp [Check.declared, Node.member?, hjson, hlookup]
    | some table =>
      rw [hlookup] at h
      cases table <;> cases h
      · simp [Check.declared, Node.member?, hjson, hlookup, Node.below, Node.members]
      · rfl
  | _ =>
    rw [hjson] at h
    cases h
    simp [Check.declared, Node.member?, hjson]

/-- Whether definitions are an object, or missing. -/
def Members.declareTable (members : Members) : Bool :=
  match members.lookup "definitions" with
  | none | some .null | some (.obj _) => true
  | _ => false

theorem rootDefinitions?_obj (members : Members) :
    rootDefinitions? (.document .schema (.obj members)) =
      if members.declareTable then .ok (Check.declared (.document .schema (.obj members)))
      else .error (.refused .definitionsNotObject (some "definitions")) := by
  have hvalue : (Node.document .schema (.obj members)).value "definitions" =
      (members.lookup "definitions").getD .null := rfl
  cases hroot : rootDefinitions? (.document .schema (.obj members)) with
  | ok extra =>
    rw [← rootDefinitions?_eq hroot]
    unfold rootDefinitions? at hroot
    unfold Members.declareTable
    rw [hvalue] at hroot
    cases hlookup : members.lookup "definitions" with
    | none => rfl
    | some table =>
      rw [hlookup] at hroot
      cases table <;> first | rfl | cases hroot
  | error f =>
    unfold rootDefinitions? at hroot
    unfold Members.declareTable
    rw [hvalue] at hroot
    cases hlookup : members.lookup "definitions" with
    | none =>
      rw [hlookup] at hroot
      cases hroot
    | some table =>
      rw [hlookup] at hroot
      cases table <;> cases hroot <;> rfl

theorem opening?_of_options_error {given : Given} {f : Fault} (hoptions : given.options = .error f)
    (members : Members) : opening? (.obj members) given = .error f := by
  unfold opening?
  rw [hoptions]
  rfl

theorem opening?_nil {given : Given} {options : Options} (hoptions : given.options = .ok options) :
    opening? (.obj []) given = .ok none := by
  unfold opening?
  rw [hoptions]
  rfl

theorem opening?_of_ne_nil {members : Members} {given : Given} {options : Options}
    (hoptions : given.options = .ok options) (nonempty : members ≠ []) :
    opening? (.obj members) given =
      if members.declareTable then
        .ok (some (options.withDefinitions (Check.declared (.document .schema (.obj members)))))
      else .error (.refused .definitionsNotObject (some "definitions")) := by
  cases members with
  | nil => exact absurd rfl nonempty
  | cons member rest =>
    unfold opening?
    rw [hoptions, rootDefinitions?_obj]
    cases Members.declareTable (member :: rest) <;> rfl

/-- Where nothing is checked, the schema is null or empty. -/
theorem opening?_none {schema : Json} {given : Given} (h : opening? schema given = .ok none) :
    schema = .null ∨ schema = .obj [] ∧ ∃ options, given.options = .ok options := by
  cases schema with
  | null => exact .inl rfl
  | obj members =>
    unfold opening? at h
    cases hoptions : given.options with
    | error f =>
      rw [hoptions] at h
      cases h
    | ok options =>
      cases members with
      | nil => exact .inr ⟨rfl, options, rfl⟩
      | cons head rest =>
        rw [hoptions] at h
        cases hextra : rootDefinitions? (.document .schema (.obj (head :: rest))) <;>
          simp only [hextra] at h <;> cases h
  | _ => cases h

/-- A validation looks at the options that it is given, and not at how they are given. -/
theorem validate_congr {given given' : Given} (h : given.options = given'.options)
    (schema value : Json) : validate schema value given = validate schema value given' := by
  have hopening : opening? schema given = opening? schema given' := by
    unfold opening?
    rw [h]
  rw [validate, validate, validateWith, validateWith, hopening]

/-- A run starts with the options of the call and the definitions at the root. -/
theorem opening?_some {schema : Json} {given : Given} {opened : Options}
    (h : opening? schema given = .ok (some opened)) :
    ∃ options, given.options = .ok options ∧
      opened = options.withDefinitions (Check.declared (.document .schema schema)) := by
  cases schema with
  | obj members =>
    unfold opening? at h
    cases hoptions : given.options with
    | error f =>
      rw [hoptions] at h
      cases h
    | ok options =>
      rw [hoptions] at h
      cases members with
      | nil => cases h
      | cons head rest =>
        cases hextra : rootDefinitions? (.document .schema (.obj (head :: rest))) with
        | error f =>
          simp only [hextra] at h
          cases h
        | ok extra =>
          simp only [hextra] at h
          cases h
          rw [rootDefinitions?_eq hextra]
          exact ⟨options, rfl, rfl⟩
  | _ => cases h

/-- A run that does not start has not spent its budget. -/
theorem opening?_error {schema : Json} {given : Given} {f : Fault}
    (h : opening? schema given = .error f) : ¬ f.OfRun := by
  cases schema with
  | null => cases h
  | obj members =>
    unfold opening? at h
    cases hoptions : given.options with
    | error g =>
      rw [hoptions] at h
      cases h
      exact given.options_error hoptions
    | ok options =>
      rw [hoptions] at h
      cases members with
      | nil => cases h
      | cons head rest =>
        cases hextra : rootDefinitions? (.document .schema (.obj (head :: rest))) with
        | error g =>
          simp only [hextra] at h
          cases h
          unfold rootDefinitions? at hextra
          split at hextra <;> cases hextra
          exact id
        | ok extra =>
          simp only [hextra] at h
          cases h
  | _ =>
    cases h
    exact id

theorem enough_pos (schema value : Json) (options : Options) : 0 < enough schema value options :=
  Nat.mul_pos (Nat.succ_pos _)
    (Nat.mul_pos (Nat.succ_pos _) (Nat.mul_pos (Nat.succ_pos _) (Nat.succ_pos _)))

/-- The answer of a validation. -/
def answerWith (guard : Guard) (budget : Options → Nat) (schema value : Json) (given : Given) :
    Answer := do
  match ← opening? schema given with
  | none => return []
  | some options =>
    let root := Node.document .schema schema
    Check.answer guard (budget options) (.start options root) root value []

theorem answerWith_of_opening {guard : Guard} {budget : Options → Nat} {schema value : Json}
    {given : Given} {opened : Options} (h : opening? schema given = .ok (some opened)) :
    answerWith guard budget schema value given =
      let root := Node.document .schema schema
      Check.answer guard (budget opened) (.start opened root) root value [] := by
  rw [answerWith, h]
  rfl

/-- A validation comes to its answer, and tells the hook of its options on the way. -/
theorem on_validateWith {guard : Guard} (ignores : guard.IgnoresHook) (budget : Options → Nat)
    (schema value : Json) (given : Given) :
    ∃ hook told, ∀ heard, (validateWith guard budget schema value given).on heard =
      hearing hook (answerWith guard budget schema value given) heard told := by
  unfold validateWith answerWith
  rcases opening? schema given with f | _ | options
  · exact ⟨none, [], fun _ => rfl⟩
  · exact ⟨none, [], fun _ => rfl⟩
  · let root := Node.document .schema schema
    obtain ⟨told, htold⟩ := Check.descend_tells ignores (budget options)
      (.start options root) 0 root value []
    exact ⟨options.hook, told, fun heard => htold.on_eq options.hook heard⟩

/-- A validation ends with its answer, or because its hook asks to stop. -/
theorem validateWith_fst {guard : Guard} (ignores : guard.IgnoresHook) (budget : Options → Nat)
    (schema value : Json) (given : Given) (heard : List Notice) :
    ((validateWith guard budget schema value given).on heard).1 =
        answerWith guard budget schema value given ∨
      ∃ message, ((validateWith guard budget schema value given).on heard).1 =
        .error (.stopped message) := by
  obtain ⟨hook, told, hrun⟩ := on_validateWith ignores budget schema value given
  rw [hrun heard]
  exact hearing_fst hook (answerWith guard budget schema value given) heard told

/-- Nobody listens to a validation. -/
def Given.Unheard (given : Given) : Prop :=
  ∀ options, given.options = .ok options → options.hook = none

theorem Given.unheard_of_hook {given : Given} {options : Options}
    (hoptions : given.options = .ok options) (hhook : options.hook = none) : given.Unheard := by
  intro other hother
  rw [hoptions] at hother
  cases hother
  exact hhook

/-- A validation that nobody listens to is its answer. -/
theorem validateWith_unheard {guard : Guard} (ignores : guard.IgnoresHook)
    (budget : Options → Nat) (schema value : Json) {given : Given} (unheard : given.Unheard)
    (heard : List Notice) :
    ((validateWith guard budget schema value given).on heard).1 =
      answerWith guard budget schema value given := by
  unfold validateWith answerWith
  rcases hopening : opening? schema given with f | _ | opened
  · rfl
  · rfl
  · obtain ⟨options, hoptions, rfl⟩ := opening?_some hopening
    let root := Node.document .schema schema
    let inner := options.withDefinitions (Check.declared root)
    obtain ⟨told, htold⟩ := Check.descend_tells ignores (budget inner) (.start inner root) 0 root
      value []
    have hrun := htold.on_eq options.hook heard
    rw [unheard options hoptions, hearing_none, ← unheard options hoptions] at hrun
    exact congrArg Prod.fst hrun

theorem Guard.simulates_self (guard : Guard) (bad : Fault → Prop) :
    guard.Simulates bad Eq guard where
  hook same := by rw [same]
  options same := by rw [same]
  root same := by rw [same]
  trials same := by rw [same]
  trial same := by rw [same]
  declare extra same := by rw [same]
  refuse same h := .inr (same ▸ h)
  follow same h := ⟨_, same ▸ h, rfl⟩

/-- A run with another guard and no fewer steps is the same, as long as it has no bad end. -/
theorem validateWith_agrees {bad : Fault → Prop} {alike : Scope → Scope → Prop}
    {guard guard' : Guard} (simulates : guard.Simulates bad alike guard')
    (bad_exhausted : bad .exhausted) (alike_self : ∀ scope, alike scope scope)
    {steps steps' : Options → Nat} (le : ∀ options, steps options ≤ steps' options)
    {schema value : Json} {given : Given} {heard : List Notice}
    (good : Avoids bad ((validateWith guard steps schema value given).on heard).1) :
    (validateWith guard' steps' schema value given).on heard =
      (validateWith guard steps schema value given).on heard := by
  unfold validateWith at good ⊢
  rcases hopening : opening? schema given with f | _ | options
  · rfl
  · rfl
  · rw [hopening] at good
    exact Check.descend_agrees simulates bad_exhausted (le options) _ _ (alike_self _) _ _ _ heard
      good

/-- Steps beyond those that a run needs make no difference. -/
theorem validateWith_mono {guard : Guard} {steps steps' : Options → Nat}
    (le : ∀ options, steps options ≤ steps' options) {schema value : Json} {given : Given}
    {heard : List Notice}
    (ends : ((validateWith guard steps schema value given).on heard).1 ≠ .error .exhausted) :
    (validateWith guard steps' schema value given).on heard =
      (validateWith guard steps schema value given).on heard := by
  exact validateWith_agrees (guard.simulates_self (· = .exhausted)) rfl (fun _ => rfl) le
    (avoids_exhausted ends)

end JsonSchema
