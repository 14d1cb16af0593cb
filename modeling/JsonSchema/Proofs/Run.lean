import JsonSchema.Check.Node
import JsonSchema.Proofs.Stateful

/-! Runs as functions of the notices given before. A guard simulates another if it goes
along with every run of the other that comes to a good end. -/
namespace JsonSchema

namespace Check

variable {α β : Type}

/-- The outcome of a check and the notices after it. -/
def on (check : Check α) (heard : List Notice) : Except Fault α × List Notice :=
  check.run.run heard

@[simp] theorem on_pure (a : α) (heard : List Notice) : on (pure a) heard = (.ok a, heard) := rfl

@[simp] theorem on_liftM (outcome : Except Fault α) (heard : List Notice) :
    on (liftM outcome) heard = (outcome, heard) := rfl

/-- Goes on after an outcome that is no fault. -/
def onward (before : Except Fault α × List Notice)
    (next : α → List Notice → Except Fault β × List Notice) : Except Fault β × List Notice :=
  match before with
  | (.ok a, heard) => next a heard
  | (.error f, heard) => (.error f, heard)

@[simp] theorem onward_ok (a : α) (heard : List Notice)
    (next : α → List Notice → Except Fault β × List Notice) :
    onward (.ok a, heard) next = next a heard := rfl

theorem on_bind (check : Check α) (next : α → Check β) (heard : List Notice) :
    on (check >>= next) heard = onward (on check heard) fun a after => on (next a) after := by
  refine (run_bind check next heard).trans ?_
  unfold on onward
  rcases check.run.run heard with ⟨_ | _, _⟩ <;> rfl

end Check

/-- Faults that a run makes itself: its budget is spent, or a reference is refused. -/
def Fault.OfRun : Fault → Prop
  | .exhausted | .refused (.cycle _) _ => True
  | _ => False

/-- An outcome that is none of some faults. -/
def Avoids {α : Type} (bad : Fault → Prop) (outcome : Except Fault α) : Prop :=
  ∀ f, outcome = .error f → ¬ bad f

theorem avoids_ok {α : Type} {bad : Fault → Prop} (a : α) : Avoids bad (.ok a) := by
  intro f h
  cases h

/-- An outcome other than that the budget is spent. -/
theorem avoids_exhausted {α : Type} {outcome : Except Fault α} (h : outcome ≠ .error .exhausted) :
    Avoids (· = .exhausted) outcome := by
  rintro f hf rfl
  exact h hf

/-- A run in alike scopes is the same as long as it has no bad end. -/
def Descent.Agrees (bad : Fault → Prop) (alike : Scope → Scope → Prop)
    (descend descend' : Descent) : Prop :=
  ∀ scope scope', alike scope scope' → ∀ schema value path heard,
    Avoids bad ((descend scope schema value path).on heard).1 →
      (descend' scope' schema value path).on heard = (descend scope schema value path).on heard

/-- From alike scopes one guard goes along with another where branches are tried out and
references followed, unless the other refuses in a bad way. -/
structure Guard.Accompanies (bad : Fault → Prop) (alike : Scope → Scope → Prop)
    (guard guard' : Guard) : Prop where
  hook {scope scope'} : alike scope scope' → scope'.options.hook = scope.options.hook
  trials {scope scope'} : alike scope scope' → scope'.trials = scope.trials
  trial {scope scope'} : alike scope scope' → alike scope.trial scope'.trial
  refuse {scope scope'} {link : Link} {f : Fault} :
    alike scope scope' → guard.follow scope link = .error f →
      bad f ∨ guard'.follow scope' link = .error f
  follow {scope scope' next : Scope} {link : Link} :
    alike scope scope' → guard.follow scope link = .ok next →
      ∃ next', guard'.follow scope' link = .ok next' ∧ alike next next'

/-- One guard goes along with another, from alike scopes to alike scopes, unless the other
refuses in a bad way. -/
structure Guard.Simulates (bad : Fault → Prop) (alike : Scope → Scope → Prop)
    (guard guard' : Guard) : Prop extends Guard.Accompanies bad alike guard guard' where
  options {scope scope'} : alike scope scope' → scope'.options = scope.options
  root {scope scope'} : alike scope scope' → scope'.root = scope.root
  declare {scope scope'} (extra : Definitions) :
    alike scope scope' → alike (guard.declare scope extra) (guard'.declare scope' extra)

theorem Scope.report_congr {scope scope' : Scope}
    (hook : scope'.options.hook = scope.options.hook) (trials : scope'.trials = scope.trials)
    (schema : Node) (value : Json) (path : Path) (finding : Finding) :
    scope'.report schema value path finding = scope.report schema value path finding := by
  unfold Scope.report Scope.notify Scope.inTrial
  rw [hook, trials]

namespace Plan

theorem on_run_both (guard : Guard) (descend : Descent) (scope : Scope) (first second : Plan)
    (heard : List Notice) :
    ((Plan.both first second).run guard descend scope).on heard =
      Check.onward ((first.run guard descend scope).on heard) fun here after =>
        Check.onward ((second.run guard descend scope).on after) fun there last =>
          (.ok (here ++ there), last) := by
  rw [run, Check.on_bind]
  simp only [Check.on_bind, Check.on_pure]

theorem on_run_probe (guard : Guard) (descend : Descent) (scope : Scope) (branch : Plan)
    (next : Bool → Plan) (heard : List Notice) :
    ((Plan.probe branch next).run guard descend scope).on heard =
      Check.onward ((branch.run guard descend scope.trial).on heard) fun found after =>
        ((next found.isEmpty).run guard descend scope).on after := by
  rw [run, Check.on_bind]

theorem on_run_follow (guard : Guard) (descend : Descent) (scope : Scope) (link : Link)
    (value : Json) (heard : List Notice) :
    ((Plan.follow link value).run guard descend scope).on heard =
      Check.onward (guard.follow scope link, heard) fun next after =>
        (descend next link.target value link.path).on after := by
  rw [run, Check.on_bind, Check.on_liftM]

/-- A plan is gone through alike as long as the nodes below it are. -/
theorem run_agrees {bad : Fault → Prop} {alike : Scope → Scope → Prop} {guard guard' : Guard}
    (accompanies : guard.Accompanies bad alike guard') {descend descend' : Descent}
    (agrees : Descent.Agrees bad alike descend descend') (plan : Plan) {scope scope' : Scope}
    (like : alike scope scope') (heard : List Notice)
    (good : Avoids bad ((plan.run guard descend scope).on heard).1) :
    (plan.run guard' descend' scope').on heard = (plan.run guard descend scope).on heard := by
  induction plan generalizing scope scope' heard with
  | clean => rfl
  | fault f => rfl
  | report schema value path finding =>
    rw [run, run, Scope.report_congr (accompanies.hook like) (accompanies.trials like)]
  | both first second ihFirst ihSecond =>
    rw [on_run_both] at good ⊢
    rw [on_run_both]
    have hfirst := ihFirst like heard
    rcases h : (first.run guard descend scope).on heard with ⟨_ | here, after⟩
    · rw [h] at good hfirst
      rw [hfirst good]
      rfl
    · rw [h, Check.onward_ok] at good
      rw [h] at hfirst
      rw [hfirst (avoids_ok here), Check.onward_ok, Check.onward_ok]
      have hsecond := ihSecond like after
      rcases h' : (second.run guard descend scope).on after with ⟨_ | there, last⟩
      · rw [h'] at good hsecond
        rw [hsecond good]
      · rw [h'] at hsecond
        rw [hsecond (avoids_ok there)]
  | enter schema value path => exact agrees scope scope' like schema value path heard good
  | follow link value =>
    rw [on_run_follow] at good ⊢
    rw [on_run_follow]
    cases h : guard.follow scope link with
    | error f =>
      rw [h] at good
      rcases accompanies.refuse like h with hbad | hsame
      · exact absurd hbad (good f rfl)
      · rw [hsame]
        rfl
    | ok next =>
      obtain ⟨next', hnext, like'⟩ := accompanies.follow like h
      rw [h] at good
      rw [hnext]
      exact agrees next next' like' link.target value link.path heard good
  | probe branch next ihBranch ihNext =>
    rw [on_run_probe] at good ⊢
    rw [on_run_probe]
    have hbranch := ihBranch (accompanies.trial like) heard
    rcases h : (branch.run guard descend scope.trial).on heard with ⟨_ | found, after⟩
    · rw [h] at good hbranch
      rw [hbranch good]
      rfl
    · rw [h, Check.onward_ok] at good
      rw [h] at hbranch
      rw [hbranch (avoids_ok found), Check.onward_ok, Check.onward_ok]
      exact ihNext found.isEmpty like after good

end Plan

/-- Within the limit, a check goes through the plan of its node. -/
theorem Check.descend_within {guard : Guard} {budget : Nat} {scope : Scope} {schema : Node}
    {value : Json} {path : Path}
    (within : Options.exceeds path.length scope.options.maxDepth = some false) :
    descend guard (budget + 1) scope schema value path =
      (node (guard.declare scope (declared schema)).options
        (guard.declare scope (declared schema)).root schema value path).run guard
        (descend guard budget) (guard.declare scope (declared schema)) := by
  rw [descend, within]

/-- With no smaller a budget and a guard that goes along, a run is the same. -/
theorem Check.descend_agrees {bad : Fault → Prop} {alike : Scope → Scope → Prop}
    {guard guard' : Guard} (simulates : guard.Simulates bad alike guard')
    (bad_exhausted : bad .exhausted) {budget budget' : Nat} (le : budget ≤ budget') :
    Descent.Agrees bad alike (descend guard budget) (descend guard' budget') := by
  induction budget generalizing budget' with
  | zero =>
    intro scope scope' _ schema value path heard good
    exact absurd bad_exhausted (good _ rfl)
  | succ budget ih =>
    intro scope scope' like schema value path heard good
    obtain ⟨larger, rfl⟩ : ∃ larger, budget' = larger + 1 := ⟨budget' - 1, by omega⟩
    unfold descend at good ⊢
    rw [simulates.options like]
    cases h : Options.exceeds path.length scope.options.maxDepth with
    | none => rfl
    | some tooDeep =>
      cases tooDeep with
      | true => rfl
      | false =>
        rw [h] at good
        have like' := simulates.declare (declared schema) like
        dsimp only at good ⊢
        rw [simulates.options like', simulates.root like']
        exact Plan.run_agrees simulates.toAccompanies (ih (by omega)) _ like' heard good

end JsonSchema
