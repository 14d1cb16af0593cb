import JsonSchema.Proofs.Opening

/-! The nodes that a run comes to, also in branches that are tried out, and how many of the
schemas match where one of several should. -/
namespace JsonSchema

/-- A node that a run comes to, with the definitions of the node in force, and the budget
for what is below it. It is tried out if only whether it finds something matters. -/
structure Visit where
  tried : Bool
  budget : Nat
  scope : Scope
  schema : Node
  value : Json
  path : Path

/-- The nodes that are come to from a node, which is tried out or not. -/
abbrev Visits := Bool → Scope → Node → Json → Path → List Visit

/-- The nodes that a plan comes to, if it comes to an end, given those that each node below
comes to. -/
def Plan.visits (answers : Answers) (visits : Visits) (tried : Bool) (scope : Scope) :
    Plan → List Visit
  | .clean | .fault _ | .report _ _ _ _ => []
  | .both first second =>
    first.visits answers visits tried scope ++ second.visits answers visits tried scope
  | .enter schema value path => visits tried scope schema value path
  | .follow link value =>
    match scope.follow link with
    | .ok inner => visits tried inner link.target value link.path
    | .error _ => []
  | .probe branch next =>
    match branch.answer .chain answers scope with
    | .ok found =>
      branch.visits answers visits true scope ++
        (next found.isEmpty).visits answers visits tried scope
    | .error _ => []

namespace Check

def visits : Nat → Visits
  | 0, _, _, _, _, _ => []
  | budget + 1, tried, scope, schema, value, path =>
    let inner := scope.withDefinitions (declared schema)
    ⟨tried, budget, inner, schema, value, path⟩ ::
      (node inner.options inner.root schema value path).visits (answer .chain budget)
        (visits budget) tried inner

/-- The schemas of which a value should match one, where that governs the node. -/
def alternatives (schema : Node) : List Node :=
  match schema.member? "enum", schema.member? "oneOf" with
  | none, some members => members.items
  | _, _ => []

/-- An answer that is an empty list of violations. -/
def isClean : Answer → Bool
  | .ok [] => true
  | _ => false

theorem isClean_iff {answer : Answer} : isClean answer = true ↔ answer = .ok [] := by
  rcases answer with f | _ | _ <;> simp [isClean]

/-- The kinds of what is found, in order. -/
def kindsOf : Answer → List Kind
  | .ok violations => violations.map (·.kind)
  | .error _ => []

theorem kindsOf_eq_cons {answer : Answer} {kind : Kind} {rest : List Kind} :
    kindsOf answer = kind :: rest ↔
      ∃ violations, answer = .ok violations ∧ violations.map (·.kind) = kind :: rest := by
  rcases answer with f | violations <;> simp [kindsOf]

theorem kindsOf_eq_singleton {answer : Answer} {kind : Kind} :
    kindsOf answer = [kind] ↔ ∃ violation, answer = .ok [violation] ∧ violation.kind = kind := by
  rcases answer with f | _ | ⟨violation, _ | _⟩ <;> simp [kindsOf]

/-- How many of the alternatives a value matches. -/
def matching (answers : Answers) (scope : Scope) (schema : Node) (value : Json) (path : Path) :
    Nat :=
  (alternatives schema).countP fun node => isClean (answers scope node value path)

end Check

def Visit.matching (visit : Visit) : Nat :=
  Check.matching (Check.answer .chain visit.budget) visit.scope visit.schema visit.value visit.path

/-- The nodes that a validation comes to. -/
def visited (schema value : Json) (given : Given) : List Visit :=
  match opening? schema given with
  | .ok (some options) =>
    let root := Node.document .schema schema
    Check.visits (enough schema value options) false (.start options root) root value []
  | _ => []

namespace Plan

variable {answers : Answers} {visits : Visits} {tried : Bool} {scope : Scope}

theorem visits_probe {branch : Plan} {found : List Violation}
    (h : branch.answer .chain answers scope = .ok found) (next : Bool → Plan) :
    (probe branch next).visits answers visits tried scope =
      branch.visits answers visits true scope ++
        (next found.isEmpty).visits answers visits tried scope := by
  rw [Plan.visits, h]

/-- Where all branches are tried, each has an answer, and what comes next is told how many
are clean. -/
theorem countClean_ok {next : Nat → Plan} {plans : List Plan} {count : Nat}
    {violations : List Violation}
    (h : (countClean next count plans).answer .chain answers scope = .ok violations) :
    (∀ plan ∈ plans, ∃ found, plan.answer .chain answers scope = .ok found) ∧
      (next (count + plans.countP fun plan =>
        Check.isClean (plan.answer .chain answers scope))).answer .chain answers scope =
          .ok violations := by
  induction plans generalizing count with
  | nil => exact ⟨fun plan hmem => absurd hmem List.not_mem_nil, h⟩
  | cons plan rest ih =>
    obtain ⟨found, hfound, h⟩ := answer_probe_ok h
    obtain ⟨hrest, hnext⟩ := ih h
    refine ⟨List.forall_mem_cons.mpr ⟨⟨found, hfound⟩, hrest⟩, ?_⟩
    rw [List.countP_cons, hfound]
    cases found with
    | nil =>
      change (next (count + (rest.countP _ + 1))).answer .chain answers scope = _
      rw [Nat.add_comm (rest.countP _), ← Nat.add_assoc]
      exact hnext
    | cons violation more => exact hnext

/-- All branches that are tried are come to. -/
theorem mem_visits_countClean {next : Nat → Plan} {plans : List Plan} {count : Nat}
    {violations : List Violation}
    (h : (countClean next count plans).answer .chain answers scope = .ok violations)
    {plan : Plan} (hplan : plan ∈ plans) {visit : Visit}
    (hvisit : visit ∈ plan.visits answers visits true scope) :
    visit ∈ (countClean next count plans).visits answers visits tried scope := by
  induction plans generalizing count with
  | nil => cases hplan
  | cons head rest ih =>
    obtain ⟨found, hfound, h⟩ := answer_probe_ok h
    rw [countClean, visits_probe hfound]
    rcases List.mem_cons.mp hplan with rfl | hrest
    · exact List.mem_append_left _ hvisit
    · exact List.mem_append_right _ (ih h hrest)

end Plan

end JsonSchema
