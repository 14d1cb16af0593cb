import JsonSchema.Proofs.Meaning

/-! What the constraints of a single node find, one by one: nothing exactly where the fact
that they stand for holds, as long as they come to an end. -/
namespace JsonSchema

namespace Check

/-- Only an object has members, so a table is what is held under its keyword. -/
theorem table_eq (schema : Node) (keyword : String) :
    ((schema.member? keyword).map Node.members).getD [] = Meaning.table schema keyword := by
  unfold Meaning.table Meaning.table?
  rcases schema.member? keyword with _ | ⟨json, address⟩
  · rfl
  · cases json <;> rfl

theorem patternProperties?_eq (schema : Node) :
    patternProperties? schema = Meaning.table? schema "patternProperties" := by
  unfold patternProperties? Meaning.table?
  rcases schema.member? "patternProperties" with _ | ⟨json, address⟩
  · rfl
  · cases json <;> rfl

theorem limitVerdicts_iff (schema : Node) (least most : Kind) (count : Nat) :
    (∀ verdict ∈ limitVerdicts schema least most count, verdict = .ok none) ↔
      Meaning.CountWithin schema least.name most.name count := by
  constructor
  · intro h
    simp [limitVerdicts, limitFinding, tooFew, tooMany] at h
    exact ⟨fun hnumber => by simp [h.1 hnumber], fun hnumber => by simp [h.2 hnumber]⟩
  · intro h
    simp [limitVerdicts, limitFinding, tooFew, tooMany]
    exact ⟨fun hnumber => by simpa using h.low hnumber,
      fun hnumber => by simpa using h.high hnumber⟩

theorem minimum_iff (schema : Node) (value : Json) :
    minimum schema value = none ↔ ((schema.value "minimum").isNumber →
      if (schema.value "exclusiveMinimum").isTrue then ¬ value.le (schema.value "minimum")
      else ¬ value.lt (schema.value "minimum")) := by
  unfold minimum
  dsimp only
  cases (schema.value "minimum").isNumber with
  | false => simp
  | true => cases (schema.value "exclusiveMinimum").isTrue <;> simp

theorem maximum_iff (schema : Node) (value : Json) :
    maximum schema value = none ↔ ((schema.value "maximum").isNumber →
      if (schema.value "exclusiveMaximum").isTrue then ¬ (schema.value "maximum").le value
      else ¬ (schema.value "maximum").lt value) := by
  unfold maximum
  dsimp only
  cases (schema.value "maximum").isNumber with
  | false => simp
  | true => cases (schema.value "exclusiveMaximum").isTrue <;> simp

theorem numberVerdicts_iff (schema : Node) (value : Json) :
    (∀ verdict ∈ numberVerdicts schema value, verdict = .ok none) ↔
      Meaning.NumberWithin schema value := by
  have hsplit : (∀ verdict ∈ numberVerdicts schema value, verdict = .ok none) ↔
      multipleOf schema value = none ∧ minimum schema value = none ∧
        exclusiveMinimum schema value = none ∧ maximum schema value = none ∧
        exclusiveMaximum schema value = none := by
    simp [numberVerdicts]
  have hmultiple : multipleOf schema value = none ↔
      ∀ divisor, schema.member? "multipleOf" = some divisor →
        value.isMultipleOf divisor.json := by
    simp [multipleOf, Option.bind_eq_none_iff]
  have hexclusiveMinimum : exclusiveMinimum schema value = none ↔
      ((schema.value "exclusiveMinimum").isNumber →
        ¬ value.le (schema.value "exclusiveMinimum")) := by
    simp [exclusiveMinimum]
  have hexclusiveMaximum : exclusiveMaximum schema value = none ↔
      ((schema.value "exclusiveMaximum").isNumber →
        ¬ (schema.value "exclusiveMaximum").le value) := by
    simp [exclusiveMaximum]
  rw [hsplit, hmultiple, minimum_iff, hexclusiveMinimum, maximum_iff, hexclusiveMaximum]
  constructor
  · rintro ⟨multiple, low, aboveOpen, high, belowOpen⟩
    refine ⟨multiple, fun hnumber hmark => ?_, fun hnumber hmark => ?_, aboveOpen,
      fun hnumber hmark => ?_, fun hnumber hmark => ?_, belowOpen⟩
    · simpa only [if_neg hmark] using low hnumber
    · simpa only [if_pos hmark] using low hnumber
    · simpa only [if_neg hmark] using high hnumber
    · simpa only [if_pos hmark] using high hnumber
  · intro h
    refine ⟨h.multiple, fun hnumber => ?_, h.aboveOpen, fun hnumber => ?_, h.belowOpen⟩
    · split
      · exact h.strictlyAbove hnumber ‹_›
      · exact h.above hnumber ‹_›
    · split
      · exact h.strictlyBelow hnumber ‹_›
      · exact h.below hnumber ‹_›

theorem matchesPattern_iff {pattern : Json} {s : String} {found : Bool}
    (h : matchesPattern pattern s = .ok found) :
    found = true ↔ ∃ text, pattern = .str text ∧ Meaning.occurs text s := by
  unfold matchesPattern at h
  cases pattern with
  | str text =>
    have hoccurs : Meaning.occurs text s = found := by
      unfold Meaning.occurs
      cases hfound : (Pattern.ofText? text).bind (·.foundIn s) with
      | error flaw => cases flaw <;> simp_all
      | ok here => simp_all
    simp [hoccurs]
  | _ =>
    cases h
    simp

theorem pattern_iff (schema : Node) (s : String) (ok : ∃ found, pattern schema s = .ok found) :
    pattern schema s = .ok none ↔ ∀ pattern, schema.member? "pattern" = some pattern →
      ∃ text, pattern.json = .str text ∧ Meaning.occurs text s := by
  unfold pattern at ok ⊢
  generalize schema.member? "pattern" = member at ok ⊢
  cases member with
  | none => simp
  | some node =>
    cases h : matchesPattern node.json s with
    | error f =>
      simp only [h] at ok
      obtain ⟨found, hfound⟩ := ok
      cases hfound
    | ok found =>
      have hiff := matchesPattern_iff h
      simp only [Option.some.injEq, forall_eq', ← hiff, h]
      cases found <;> simp [bind, Except.bind, pure, Except.pure]

theorem format_iff (options : Options) (schema : Node) (s : String)
    (ok : ∃ found, format options schema s = .ok found) :
    format options schema s = .ok none ↔ ∀ name, options.validateFormat.isOn →
      schema.member? "format" = some name →
        ∃ format, formatNamed? name.json = some format ∧ format.accepts s = .ok true := by
  unfold format at ok ⊢
  generalize schema.member? "format" = member at ok ⊢
  cases member with
  | none => simp
  | some name =>
    cases hon : options.validateFormat.isOn with
    | false => simp
    | true =>
      cases hnamed : formatNamed? name.json with
      | none => simp [hnamed]
      | some format =>
        rcases haccepts : format.accepts s with flaw | _ | _
        · simp [hon, hnamed, haccepts] at ok
        · simp [hnamed, haccepts]
        · simp [hnamed, haccepts]

theorem textVerdicts_iff (options : Options) (schema : Node) (s : String)
    (ok : ∀ verdict ∈ textVerdicts options schema s, ∃ found, verdict = .ok found) :
    (∀ verdict ∈ textVerdicts options schema s, verdict = .ok none) ↔
      Meaning.TextWithin options schema s := by
  unfold textVerdicts at ok ⊢
  rw [List.forall_mem_append, List.forall_mem_cons, List.forall_mem_cons] at ok ⊢
  obtain ⟨⟨hpattern, hformat, _⟩, _⟩ := ok
  rw [pattern_iff schema s hpattern, format_iff options schema s hformat, limitVerdicts_iff]
  constructor
  · rintro ⟨⟨pattern, format, _⟩, length⟩
    exact ⟨pattern, format, length⟩
  · intro h
    exact ⟨⟨h.pattern, h.format, fun _ hmem => absurd hmem List.not_mem_nil⟩, h.length⟩

theorem hasRepeat_iff (texts : List String) : hasRepeat texts = false ↔ texts.Nodup := by
  induction texts with
  | nil => simp [hasRepeat]
  | cons text rest ih => simp [hasRepeat, ih]

theorem uniqueItems_iff (schema : Node) (elements : List Json) :
    uniqueItems schema elements = none ↔ ((schema.value "uniqueItems").isTrue →
      elements.Pairwise fun a b => ¬ a.same b) := by
  have hpairwise : hasRepeat (elements.map Json.canonicalText) = false ↔
      elements.Pairwise fun a b => ¬ a.same b := by
    rw [hasRepeat_iff, List.Nodup, List.pairwise_map]
    simp [Json.same]
  unfold uniqueItems
  rw [← hpairwise]
  cases (schema.value "uniqueItems").isTrue <;> simp

theorem mem_namesIn (json : Json) (name : String) :
    name ∈ namesIn json ↔ ∃ names, json = .arr names ∧ .str name ∈ names := by
  cases json with
  | arr items =>
    simp only [namesIn, List.mem_filterMap, Json.arr.injEq, exists_eq_left']
    constructor
    · rintro ⟨item, hmem, hitem⟩
      cases item <;> cases hitem
      exact hmem
    · intro hmem
      exact ⟨.str name, hmem, rfl⟩
  | _ => simp [namesIn]

theorem mem_markedNames (names : List String) (properties : List (String × Node))
    (name : String) :
    name ∈ markedNames names properties ↔
      name ∈ names ∨ ∃ node, (name, node) ∈ properties ∧ (node.value "required").isTrue := by
  induction properties generalizing names with
  | nil => simp [markedNames]
  | cons head rest ih =>
    obtain ⟨other, node⟩ := head
    have hcons : (∃ own, (name, own) ∈ (other, node) :: rest ∧ (own.value "required").isTrue) ↔
        (name = other ∧ (node.value "required").isTrue) ∨
          ∃ own, (name, own) ∈ rest ∧ (own.value "required").isTrue := by
      simp [or_and_right, exists_or, and_assoc]
    unfold markedNames
    rw [hcons]
    by_cases hmarked : (node.value "required").isTrue = true
    · by_cases hmem : other ∈ names
      · rw [if_neg (by simp [hmem]), ih]
        constructor
        · rintro (h | h)
          · exact .inl h
          · exact .inr (.inr h)
        · rintro (h | ⟨rfl, _⟩ | h)
          · exact .inl h
          · exact .inl hmem
          · exact .inr h
      · rw [if_pos (by simp [hmarked, hmem]), ih]
        simp [hmarked, or_assoc]
    · rw [if_neg (by simp [hmarked]), ih]
      simp [hmarked]

theorem mem_requiredNames (schema : Node) (name : String) :
    name ∈ requiredNames schema ↔ Meaning.Requires schema name := by
  unfold requiredNames Meaning.Requires properties
  rw [mem_markedNames, mem_namesIn, table_eq]

theorem required_iff (options : Options) (schema : Node) (members : Members) :
    (∀ verdict ∈ required options schema members, verdict = .ok none) ↔
      ∀ name, Meaning.Requires schema name → Members.has members name ∨ options.omits name := by
  simp only [required, List.forall_mem_map, mem_requiredNames]
  simp [Decidable.or_iff_not_imp_left]

/-- The first pattern that matches a name, as long as none before it is beyond reading. -/
theorem matching?_compiled {name : String} {patterns : List (String × Node)}
    {found : Option Node} (h : matching? name (compiled patterns) = .ok found) :
    found = Meaning.firstPattern? patterns name := by
  induction patterns with
  | nil =>
    cases h
    rfl
  | cons head rest ih =>
    obtain ⟨text, node⟩ := head
    have hskip (hmissing : Meaning.occurs text name = false) :
        Meaning.firstPattern? ((text, node) :: rest) name = Meaning.firstPattern? rest name := by
      simp [Meaning.firstPattern?, hmissing]
    cases hread : Pattern.ofText? text with
    | error flaw =>
      have hcompiled : compiled ((text, node) :: rest) = compiled rest := by
        simp [compiled, hread, Except.toOption]
      rw [hskip (by simp [Meaning.occurs, hread, Except.bind])]
      exact ih (hcompiled ▸ h)
    | ok pattern =>
      have hcompiled : compiled ((text, node) :: rest) = (pattern, node) :: compiled rest := by
        simp [compiled, hread, Except.toOption]
      rw [hcompiled, matching?] at h
      cases hfound : pattern.foundIn name with
      | error flaw =>
        rw [hfound] at h
        cases h
      | ok here =>
        have hoccurs : Meaning.occurs text name = here := by
          simp [Meaning.occurs, hread, Except.bind, hfound]
        rw [hfound] at h
        cases here with
        | false =>
          rw [hskip hoccurs]
          exact ih h
        | true =>
          cases h
          simp only [Meaning.firstPattern?, List.find?_cons, hoccurs, Option.map_some,
            Option.filter_some]
          cases node.isNull <;> rfl

end Check

end JsonSchema
