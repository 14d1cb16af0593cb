import JsonSchema.Proofs.Leads
import JsonSchema.Proofs.Opening
import Mathlib.Logic.Relation

/-! The states that a run goes through, from the check of the root inwards. A hook that asks to
stop only makes a run go through fewer of them. Where a run ends in a fault, it has gone through a
state that raises it. -/
namespace JsonSchema

/-- What a run is about: to check a value against a node, or to go through a part of the plan of
a node. -/
inductive Task where
  | check
  | plan (plan : Plan)

structure State where
  budget : Nat
  scope : Scope
  schema : Node
  value : Json
  path : Path
  task : Task

namespace State

/-- What a run comes to from a state on. -/
def answer (state : State) : Answer :=
  match state.task with
  | .check => Check.answer .chain state.budget state.scope state.schema state.value state.path
  | .plan plan => plan.answer .chain (Check.answer .chain state.budget) state.scope

/-- What a run goes on with from a state, until it comes back to it. The second part of a plan is
come to when the first has an answer, and what comes after a branch when the branch has one. -/
inductive Next : State → State → Prop
  | opens {budget : Nat} {scope : Scope} {schema : Node} {value : Json} {path : Path} :
      Options.exceeds path.length scope.options.maxDepth = some false →
      Next ⟨budget + 1, scope, schema, value, path, .check⟩
        ⟨budget, scope.withDefinitions (Check.declared schema), schema, value, path,
          .plan (Check.node (scope.withDefinitions (Check.declared schema)).options scope.root
            schema value path)⟩
  | first {budget : Nat} {scope : Scope} {schema : Node} {value : Json} {path : Path}
      (first second : Plan) :
      Next ⟨budget, scope, schema, value, path, .plan (.both first second)⟩
        ⟨budget, scope, schema, value, path, .plan first⟩
  | second {budget : Nat} {scope : Scope} {schema : Node} {value : Json} {path : Path}
      {first : Plan} {here : List Violation} (second : Plan) :
      first.answer .chain (Check.answer .chain budget) scope = .ok here →
      Next ⟨budget, scope, schema, value, path, .plan (.both first second)⟩
        ⟨budget, scope, schema, value, path, .plan second⟩
  | enter {budget : Nat} {scope : Scope} {schema node : Node} {value part : Json}
      {path place : Path} :
      Next ⟨budget, scope, schema, value, path, .plan (.enter node part place)⟩
        ⟨budget, scope, node, part, place, .check⟩
  | follow {budget : Nat} {scope inner : Scope} {schema : Node} {value part : Json} {path : Path}
      {link : Link} : scope.follow link = .ok inner →
      Next ⟨budget, scope, schema, value, path, .plan (.follow link part)⟩
        ⟨budget, inner, link.target, part, link.path, .check⟩
  | branch {budget : Nat} {scope : Scope} {schema : Node} {value : Json} {path : Path}
      (branch : Plan) (next : Bool → Plan) :
      Next ⟨budget, scope, schema, value, path, .plan (.probe branch next)⟩
        ⟨budget, scope.trial, schema, value, path, .plan branch⟩
  | after {budget : Nat} {scope : Scope} {schema : Node} {value : Json} {path : Path}
      {branch : Plan} {found : List Violation} (next : Bool → Plan) :
      branch.answer .chain (Check.answer .chain budget) scope.trial = .ok found →
      Next ⟨budget, scope, schema, value, path, .plan (.probe branch next)⟩
        ⟨budget, scope, schema, value, path, .plan (next found.isEmpty)⟩

/-- The states that a run goes through from a state on. -/
abbrev Reaches : State → State → Prop :=
  Relation.ReflTransGen Next

/-- What a state itself ends in. -/
inductive Raises : State → Fault → Prop
  | exhausted {scope : Scope} {schema : Node} {value : Json} {path : Path} :
      Raises ⟨0, scope, schema, value, path, .check⟩ .exhausted
  | unusable {budget : Nat} {scope : Scope} {schema : Node} {value : Json} {path : Path} :
      Options.exceeds path.length scope.options.maxDepth = none →
      Raises ⟨budget + 1, scope, schema, value, path, .check⟩ .unusableOption
  | deep {budget : Nat} {scope : Scope} {schema : Node} {value : Json} {path : Path} :
      Options.exceeds path.length scope.options.maxDepth = some true →
      Raises ⟨budget + 1, scope, schema, value, path, .check⟩
        (.refused (.depth scope.options.maxDepth) path.text)
  | fault {budget : Nat} {scope : Scope} {schema : Node} {value : Json} {path : Path} (f : Fault) :
      Raises ⟨budget, scope, schema, value, path, .plan (.fault f)⟩ f
  | follow {budget : Nat} {scope : Scope} {schema : Node} {value part : Json} {path : Path}
      {link : Link} {f : Fault} : scope.follow link = .error f →
      Raises ⟨budget, scope, schema, value, path, .plan (.follow link part)⟩ f

end State

/-- A branch comes to the same when it is tried out. -/
theorem Plan.answer_trial {guard : Guard} (ignores : guard.IgnoresHook) {budget : Nat}
    {scope : Scope} (plan : Plan) :
    plan.answer guard (Check.answer guard budget) scope.trial =
      plan.answer guard (Check.answer guard budget) scope := by
  obtain ⟨told, htrial⟩ := run_tells ignores (Check.descend_tells ignores budget) plan scope.trial 0
  obtain ⟨told', hscope⟩ := run_tells ignores (Check.descend_tells ignores budget) plan scope 0
  have heq := (htrial.on_eq none []).symm.trans (hscope.on_eq none [])
  rw [hearing_none, hearing_none] at heq
  exact congrArg Prod.fst heq

namespace State

/-- A fault that is raised further on is raised from here on. -/
theorem Next.raised {state after : State} {f : Fault} (next : state.Next after)
    (h : ∃ last, after.Reaches last ∧ last.Raises f) :
    ∃ last, state.Reaches last ∧ last.Raises f := by
  obtain ⟨last, reaches, raises⟩ := h
  exact ⟨last, .head next reaches, raises⟩

theorem raised_of_plan {budget : Nat}
    (below : ∀ {scope schema value path f}, Check.answer .chain budget scope schema value path =
      .error f → ∃ last, Reaches ⟨budget, scope, schema, value, path, .check⟩ last ∧ last.Raises f)
    (plan : Plan) {scope : Scope} {schema : Node} {value : Json} {path : Path} {f : Fault}
    (h : plan.answer .chain (Check.answer .chain budget) scope = .error f) :
    ∃ last, Reaches ⟨budget, scope, schema, value, path, .plan plan⟩ last ∧ last.Raises f := by
  induction plan generalizing scope with
  | clean | report => cases h
  | fault g =>
    cases h
    exact ⟨_, .refl, .fault f⟩
  | enter node part place => exact Next.enter.raised (below h)
  | follow link part =>
    cases hfollow : scope.follow link with
    | error g =>
      rw [Plan.answer_follow_of_error hfollow] at h
      cases h
      exact ⟨_, .refl, .follow hfollow⟩
    | ok inner =>
      rw [Plan.answer_follow_of_ok hfollow] at h
      exact (Next.follow hfollow).raised (below h)
  | both first second ihFirst ihSecond =>
    cases hfirst : first.answer .chain (Check.answer .chain budget) scope with
    | error g =>
      rw [Plan.answer_both_of_error hfirst] at h
      cases h
      exact (Next.first first second).raised (ihFirst hfirst)
    | ok here =>
      rw [Plan.answer_both_of_ok hfirst] at h
      refine (Next.second second hfirst).raised (ihSecond ?_)
      cases hsecond : second.answer .chain (Check.answer .chain budget) scope with
      | error g =>
        rw [hsecond] at h
        exact h
      | ok there =>
        rw [hsecond] at h
        cases h
  | probe branch next ihBranch ihNext =>
    have htrial : branch.answer .chain (Check.answer .chain budget) scope.trial =
        branch.answer .chain (Check.answer .chain budget) scope :=
      Plan.answer_trial Guard.chain_ignoresHook branch
    cases hbranch : branch.answer .chain (Check.answer .chain budget) scope with
    | error g =>
      rw [Plan.answer_probe_of_error hbranch] at h
      cases h
      exact (Next.branch branch next).raised (ihBranch (htrial.trans hbranch))
    | ok found =>
      rw [Plan.answer_probe_of_ok hbranch] at h
      exact (Next.after next (htrial.trans hbranch)).raised (ihNext found.isEmpty h)

/-- A fault that ends the check of a node is raised by a state that the check goes through. By
induction on the budget, and there along the plan of the node. -/
theorem raised_of_check {budget : Nat} {scope : Scope} {schema : Node} {value : Json} {path : Path}
    {f : Fault} (h : Check.answer .chain budget scope schema value path = .error f) :
    ∃ last, Reaches ⟨budget, scope, schema, value, path, .check⟩ last ∧ last.Raises f := by
  induction budget generalizing scope schema value path f with
  | zero =>
    cases h
    exact ⟨_, .refl, .exhausted⟩
  | succ budget ih =>
    rw [Check.answer] at h
    rcases hdepth : Options.exceeds path.length scope.options.maxDepth with _ | _ | _
    · rw [hdepth] at h
      cases h
      exact ⟨_, .refl, .unusable hdepth⟩
    · rw [hdepth] at h
      exact (Next.opens hdepth).raised (raised_of_plan ih _ h)
    · rw [hdepth] at h
      cases h
      exact ⟨_, .refl, .deep hdepth⟩

/-- The plan that a state goes through leads where that of its node does. -/
def KeepsTo (state : State) : Prop :=
  match state.task with
  | .check => True
  | .plan plan =>
    Check.KeepsTo state.scope.options state.scope.root state.schema state.value state.path plan

theorem Next.keepsTo {state after : State} (next : state.Next after) (keeps : state.KeepsTo) :
    after.KeepsTo := by
  cases next with
  | opens => exact Check.node_every
  | first => exact keeps.1
  | second => exact keeps.2
  | enter | follow => trivial
  | branch => exact keeps.1
  | @after _ _ _ _ _ _ found => exact keeps.2 found.isEmpty

/-- The state in which a validation checks the root, if there is something to check. -/
def root (schema value : Json) (options : Options) : State where
  budget := enough schema value options
  scope := .start options (.document .schema schema)
  schema := .document .schema schema
  value := value
  path := []
  task := .check

theorem keepsTo_of_reaches {schema value : Json} {options : Options} {state : State}
    (reaches : (root schema value options).Reaches state) : state.KeepsTo := by
  induction reaches with
  | refl => trivial
  | tail _ next ih => exact next.keepsTo ih

/-- A fault that ends a validation is that of its opening, or raised by a state that it goes
through, unless it is the hook's. -/
theorem raised_of_validate {schema value : Json} {given : Given} {heard : List Notice} {f : Fault}
    (h : ((validate schema value given).on heard).1 = .error f)
    (unasked : ∀ message, f ≠ .stopped message) :
    opening? schema given = .error f ∨
      ∃ options state, opening? schema given = .ok (some options) ∧
        (root schema value options).Reaches state ∧ state.Raises f := by
  rcases validateWith_fst Guard.chain_ignoresHook (enough schema value) schema value given heard
    with hsame | ⟨message, hstop⟩
  · rw [validate, hsame] at h
    rcases hopening : opening? schema given with g | _ | options
    · rw [answerWith, hopening] at h
      cases h
      exact .inl rfl
    · rw [answerWith, hopening] at h
      cases h
    · rw [answerWith_of_opening hopening] at h
      obtain ⟨state, reaches, raises⟩ := raised_of_check h
      exact .inr ⟨options, state, rfl, reaches, raises⟩
  · rw [validate, hstop] at h
    exact absurd (Except.error.inj h).symm (unasked message)

end State

end JsonSchema
