import JsonSchema.Proofs.Opening
import JsonSchema.Proofs.Settlement

/-! A validation that ends in a list of violations has decided what the schema means: the
list is empty where the value meets the schema, and not where it does not. -/
namespace JsonSchema

namespace Check

/-- Answers are right about what is met: by induction on the budget, where the answers
below are right, the plan of a node settles its meaning. -/
theorem answer_decides (budget : Nat) : Answers.Decide (answer .chain budget) := by
  induction budget with
  | zero =>
    intro scope schema value path violations h
    cases h
  | succ budget ih =>
    intro scope schema value path violations h
    rw [answer] at h
    cases hdepth : Options.exceeds path.length scope.options.maxDepth with
    | none =>
      rw [hdepth] at h
      cases h
    | some tooDeep =>
      rw [hdepth] at h
      cases tooDeep with
      | true => cases h
      | false =>
        let inner := scope.withDefinitions (declared schema)
        have hmet : Decides inner.root inner.options
            (Meaning.node inner.options inner.root schema value) violations.isEmpty :=
          node_settles ih inner.options inner.root schema value path violations h
        exact .meets (congrArg scope.options.withDefinitions (table_eq schema "definitions")) hmet

end Check

/-- A schema accepts a value with the options of a call, or rejects it. Null accepts every
value before the options are looked at. -/
def Accepts (given : Given) (schema value : Json) : Prop :=
  schema = .null ∨ ∃ options, given.options = .ok options ∧
    Decides (.document .schema schema) options (.meets (.document .schema schema) value) true

def Rejects (given : Given) (schema value : Json) : Prop :=
  ∃ options, given.options = .ok options ∧
    Decides (.document .schema schema) options (.meets (.document .schema schema) value) false

/-- The definitions at the root are in force from the start, so that it adds none. -/
theorem decides_opened {schema : Node} {options : Options} {value : Json} {met : Bool}
    (h : Decides schema (options.withDefinitions (Meaning.table schema "definitions"))
      (.meets schema value) met) :
    Decides schema options (.meets schema value) met := by
  cases h with
  | meets hinner hmet =>
    refine .meets ?_ hmet
    rw [hinner, Options.withDefinitions, Options.withDefinitions]
    congr 1
    exact (Definitions.extend_eq_self_iff _ _).mpr (Definitions.not_adds_extend _ _)

theorem answerWith_decides {budget : Options → Nat} {schema value : Json} {given : Given}
    {violations : List Violation}
    (h : answerWith .chain budget schema value given = .ok violations) :
    schema = .null ∧ violations = [] ∨ ∃ options, given.options = .ok options ∧
      Decides (.document .schema schema) options (.meets (.document .schema schema) value)
        violations.isEmpty := by
  unfold answerWith at h
  rcases hopening : opening? schema given with f | _ | opened
  · rw [hopening] at h
    cases h
  · rw [hopening] at h
    cases h
    rcases opening?_none hopening with rfl | ⟨rfl, options, hoptions⟩
    · exact .inl ⟨rfl, rfl⟩
    · exact .inr ⟨options, hoptions, .meets rfl (.fact_true trivial)⟩
  · rw [hopening] at h
    obtain ⟨options, hoptions, rfl⟩ := opening?_some hopening
    have hmet := Check.answer_decides _ _ _ _ _ _ h
    rw [Check.declared, Check.table_eq] at hmet
    exact .inr ⟨options, hoptions, decides_opened hmet⟩

theorem decides_null (options : Options) (address : Option Address) (value : Json)
    {root : Node} : Decides root options (.meets ⟨.null, address⟩ value) true :=
  .meets rfl (.fact_true trivial)

/-- A validation that ends in a list has found nothing exactly where the schema accepts
the value, and something exactly where the schema rejects it. -/
theorem validate_eq_nil_iff_accepts {schema value : Json} {given : Given}
    {heard after : List Notice} {violations : List Violation}
    (returns : (validate schema value given).on heard = (.ok violations, after)) :
    (violations = [] ↔ Accepts given schema value) ∧
      (violations ≠ [] ↔ Rejects given schema value) := by
  obtain ⟨hook, told, hrun⟩ := on_validateWith Guard.chain_ignoresHook (enough schema value)
    schema value given
  have hanswer : answerWith .chain (enough schema value) schema value given = .ok violations :=
    hearing_ok ((hrun heard).symm.trans returns)
  have hdecided : ∃ met, violations.isEmpty = met ∧
      (met = true ↔ Accepts given schema value) ∧ (met = false ↔ Rejects given schema value) := by
    rcases answerWith_decides hanswer with ⟨rfl, rfl⟩ | ⟨options, hoptions, hmet⟩
    · refine ⟨true, rfl, ⟨fun _ => .inl rfl, fun _ => rfl⟩, nofun, ?_⟩
      rintro ⟨options, _, hmissed⟩
      exact (decides_null options _ value).unique hmissed
    · refine ⟨violations.isEmpty, rfl, ⟨fun hnil => ?_, ?_⟩, fun hsome => ?_, ?_⟩
      · exact .inr ⟨options, hoptions, hnil ▸ hmet⟩
      · rintro (rfl | ⟨other, hother, hmet'⟩)
        · exact hmet.unique (decides_null options _ value)
        · cases hoptions.symm.trans hother
          exact hmet.unique hmet'
      · exact ⟨options, hoptions, hsome ▸ hmet⟩
      · rintro ⟨other, hother, hmissed⟩
        cases hoptions.symm.trans hother
        exact hmet.unique hmissed
  obtain ⟨met, hmet, haccepts, hrejects⟩ := hdecided
  rw [← haccepts, ← hrejects, ← hmet]
  cases violations <;> simp

/-- A schema for trees that refers to itself. -/
def Accepts.treeSchema : Json :=
  .obj [
    ("definitions", .obj [("tree", .obj [("properties", .obj [
      ("left", .obj [("$ref", .str "tree")]),
      ("size", .obj [("type", .arr [.str "integer", .str "null"]), ("minimum", .int 0)])])])]),
    ("oneOf", .arr [.obj [("$ref", .str "tree")], .obj [("type", .str "array")]])]

def Accepts.tree : Json :=
  .obj [("left", .obj [("size", .int 3)]), ("size", .null)]

theorem validate_eq_nil_iff_accepts_tree :
    (validate Accepts.treeSchema Accepts.tree .absent).on [] = (.ok [], []) ∧
      Accepts .absent Accepts.treeSchema Accepts.tree := by
  have returns : (validate Accepts.treeSchema Accepts.tree .absent).on [] = (.ok [], []) := by
    rfl
  exact ⟨returns, (validate_eq_nil_iff_accepts returns).1.mp rfl⟩

end JsonSchema
