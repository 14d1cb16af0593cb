import JsonSchema.Proofs.Answer
import JsonSchema.Proofs.Leads

/-! A node that neither a combinator nor a reference governs is checked as its type says, and a
number of a numeric type as the constraints on numbers say. -/
namespace JsonSchema.Check

/-- A node that has members is governed by what they hold. -/
theorem obj_of_member? {schema child : Node} {name : String}
    (h : schema.member? name = some child) : ∃ members, schema.json = .obj members := by
  unfold Node.member? at h
  split at h
  · exact ⟨_, ‹_›⟩
  · cases h

/-- A node is checked by one type alone, which it declares or which is told by its shape. -/
structure Solely (schema : Node) (type : SchemaType) : Prop where
  plain : ∀ keyword ∈ "$ref" :: combinators, schema.member? keyword = none
  type : ∃ named, governingType? schema = some named ∧ namedType? named.json = some type

section

variable {schema : Node} {type : SchemaType}

/-- Only an object has a type that governs it. -/
theorem obj_of_governingType? {named : Node} (h : governingType? schema = some named) :
    ∃ members, schema.json = .obj members := by
  cases htype : schema.member? "type" with
  | some declared => exact obj_of_member? htype
  | none =>
    unfold governingType? at h
    rw [htype] at h
    dsimp only at h
    split at h
    · exact ⟨_, ‹_›⟩
    · cases h

theorem Solely.node_eq (solely : Solely schema type) (options : Options) (root : Node)
    (value : Json) (path : Path) :
    node options root schema value path = ofType options schema value path type := by
  obtain ⟨named, hgoverning, hnamed⟩ := solely.type
  obtain ⟨members, hjson⟩ := obj_of_governingType? hgoverning
  have hplain := solely.plain
  simp only [combinators, List.forall_mem_cons] at hplain
  obtain ⟨href, henum, hone, hall, hany, -⟩ := hplain
  have hname : named.json.isArray = false := by
    cases harray : named.json with
    | arr items =>
      rw [harray] at hnamed
      cases hnamed
    | _ => rfl
  rw [node_of_obj hjson, governing, henum, hone, hall, hany, href, hgoverning]
  dsimp only
  rw [hname, if_neg Bool.false_ne_true, Check.type, hnamed]

theorem Solely.answer_eq (solely : Solely schema type) {guard : Guard} {scope : Scope}
    {value : Json} {path : Path}
    (admitted : Options.exceeds path.length scope.options.maxDepth = some false) (budget : Nat) :
    answer guard (budget + 1) scope schema value path =
      (ofType (guard.declare scope (declared schema)).options schema value path type).answer guard
        (answer guard budget) (guard.declare scope (declared schema)) := by
  rw [answer, admitted]
  dsimp only
  rw [solely.node_eq]

/-- A value that passes as a number of a type, and then has the constraints on numbers to meet. -/
inductive Numeric (value : Json) : SchemaType → Prop
  | number : value.isNumber → Numeric value .number
  | integer : value.isIntegral → Numeric value .integer

theorem Numeric.isNumber {value : Json} (numeric : Numeric value type) : value.isNumber := by
  cases numeric with
  | number h => exact h
  | integer h =>
    cases value with
    | int | float => rfl
    | _ => cases h

theorem Numeric.ofType_eq {value : Json} (numeric : Numeric value type) (options : Options)
    (path : Path) :
    ofType options schema value path type =
      .settle schema value path (numberVerdicts schema value) := by
  cases numeric with
  | number h => exact if_pos h
  | integer h => exact if_pos h

end

theorem answer_settle {guard : Guard} {answers : Answers} {scope : Scope} (schema : Node)
    (value : Json) (path : Path) (findings : List (Option Finding)) :
    (Plan.settle schema value path (findings.map .ok)).answer guard answers scope =
      .ok (findings.flatMap fun found => (found.map (·.violation path)).toList) := by
  rw [Plan.settle, List.map_map]
  induction findings with
  | nil => rfl
  | cons finding rest ih =>
    rw [List.map_cons, Plan.all]
    cases finding with
    | none => rw [Plan.answer_both_of_ok rfl, ih]; rfl
    | some finding => rw [Plan.answer_both_of_ok rfl, ih]; rfl

/-- What is found of a number, in order: whether it divides, and which bounds it breaks. -/
def numberFindings (schema : Node) (value : Json) : List (Option Finding) :=
  [multipleOf schema value, minimum schema value, exclusiveMinimum schema value,
    maximum schema value, exclusiveMaximum schema value]

def numberViolations (schema : Node) (value : Json) (path : Path) : List Violation :=
  (numberFindings schema value).flatMap fun found => (found.map (·.violation path)).toList

section

variable {schema : Node} {type : SchemaType} {value : Json} (numeric : Numeric value type)
include numeric

/-- A number of a numeric type is checked to the end, whatever the schema says. -/
theorem Numeric.answer_eq (options : Options) (path : Path) (guard : Guard) (answers : Answers)
    (scope : Scope) :
    (ofType options schema value path type).answer guard answers scope =
      .ok (numberViolations schema value path) := by
  rw [numeric.ofType_eq]
  exact answer_settle schema value path (numberFindings schema value)

/-- So does the run at a node that is checked by its type alone, unless its hook stops it. -/
theorem Numeric.descend_eq (solely : Solely schema type) {scope : Scope} {path : Path}
    (admitted : Options.exceeds path.length scope.options.maxDepth = some false) (budget : Nat)
    (heard : List Notice) :
    ((descend .chain (budget + 1) scope schema value path).on heard).1 =
        .ok (numberViolations schema value path) ∨
      ∃ message, ((descend .chain (budget + 1) scope schema value path).on heard).1 =
        .error (.stopped message) := by
  have hrun := descend_comes_to Guard.chain_ignoresHook (budget + 1) scope schema value path heard
  rwa [solely.answer_eq admitted, numeric.answer_eq] at hrun

end

end JsonSchema.Check
