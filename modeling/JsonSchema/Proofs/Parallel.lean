import Mathlib.Data.List.Forall2
import JsonSchema.Proofs.Applied

/-! Two runs in step, on schemas and values that differ where an observer does not look. What
is seen of one is seen of the other, as long as no hook looks further. -/
namespace JsonSchema

/-- Answers that are one fault, or lists of violations that are alike one by one. -/
inductive Answer.Alike (violations : Violation → Violation → Prop) : Answer → Answer → Prop
  | found {here here' : List Violation} : List.Forall₂ violations here here' →
      Alike violations (.ok here) (.ok here')
  | failed (f : Fault) : Alike violations (.error f) (.error f)

theorem Answer.Alike.eq {answer answer' : Answer} (h : Answer.Alike Eq answer answer') :
    answer = answer' := by
  cases h with
  | found hsame =>
    rw [List.forall₂_eq_eq_eq] at hsame
    rw [hsame]
  | failed f => rfl

/-- Which notices and violations look alike. -/
structure View where
  notices : Notice → Notice → Prop
  violations : Violation → Violation → Prop
  of_notices {notice notice' : Notice} :
    notices notice notice' → violations notice.violation notice'.violation

namespace View

/-- Runs that look alike at their ends. -/
structure Ends (view : View) (result result' : Answer × List Notice) : Prop where
  answer : Answer.Alike view.violations result.1 result'.1
  heard : List.Forall₂ view.notices result.2 result'.2

/-- A hook that tells no notices apart that look alike. -/
def Bounds (view : View) (hook : Option Hook) : Prop :=
  ∀ listens, hook = some listens → ∀ notices notices' : List Notice,
    List.Forall₂ view.notices notices notices' → listens notices' = listens notices

theorem bounds_none (view : View) : view.Bounds none :=
  fun _ hlistens => nomatch hlistens

variable {view : View} {result : Answer × List Notice} {heard : List Notice}

theorem ends_ok {violations : List Violation} (h : view.Ends (.ok violations, heard) result) :
    ∃ violations' heard', result = (.ok violations', heard') ∧
      List.Forall₂ view.violations violations violations' ∧
      List.Forall₂ view.notices heard heard' := by
  obtain ⟨answer, heard'⟩ := result
  obtain ⟨hanswer, hheard⟩ := h
  cases hanswer with
  | found hfound => exact ⟨_, heard', rfl, hfound, hheard⟩

theorem ends_error {f : Fault} (h : view.Ends (.error f, heard) result) :
    ∃ heard', result = (.error f, heard') ∧ List.Forall₂ view.notices heard heard' := by
  obtain ⟨answer, heard'⟩ := result
  obtain ⟨hanswer, hheard⟩ := h
  cases hanswer
  exact ⟨heard', rfl, hheard⟩

end View

/-- After notices that look alike two checks end alike, if the first ends within its budget. -/
def Check.Parallels (view : View) (check check' : Check (List Violation)) : Prop :=
  ∀ heard heard', List.Forall₂ view.notices heard heard' →
    Avoids (· = .exhausted) (check.on heard).1 → view.Ends (check.on heard) (check'.on heard')

theorem Check.throw_parallels (view : View) (f : Fault) :
    Check.Parallels view (throw f) (throw f) :=
  fun _ _ like _ => ⟨.failed f, like⟩

/-- What is paired in two runs: the nodes that they come to at each place, the values, and what
is seen of both. Links that are paired are both followed. -/
structure Pairing where
  view : View
  nodes : Path → Node → Node → Prop
  values : Json → Json → Prop
  links : Link → Link → Prop

/-- The pairs whose first node, or target, is one of some nodes. -/
def Pairing.among (pairing : Pairing) (some : Node → Prop) : Pairing :=
  { pairing with
    nodes := fun path schema schema' => pairing.nodes path schema schema' ∧ some schema
    links := fun link link' => pairing.links link link' ∧ some link.target }

/-- Plans of one shape that go on with what is paired. -/
inductive Plan.Parallels (pairing : Pairing) : Plan → Plan → Prop
  | clean : Parallels pairing .clean .clean
  | fault (f : Fault) : Parallels pairing (.fault f) (.fault f)
  | report {schema schema' : Node} {value value' : Json} {path : Path} {finding finding' : Finding} :
      pairing.view.notices ((finding.violation path).notice schema.json value)
        ((finding'.violation path).notice schema'.json value') →
      Parallels pairing (.report schema value path finding) (.report schema' value' path finding')
  | both {first first' second second' : Plan} : Parallels pairing first first' →
      Parallels pairing second second' → Parallels pairing (.both first second) (.both first' second')
  | enter {schema schema' : Node} {value value' : Json} (path : Path) :
      pairing.nodes path schema schema' → pairing.values value value' →
      Parallels pairing (.enter schema value path) (.enter schema' value' path)
  | follow {link link' : Link} {value value' : Json} : pairing.links link link' →
      pairing.values value value' → Parallels pairing (.follow link value) (.follow link' value')
  | probe {branch branch' : Plan} {next next' : Bool → Plan} : Parallels pairing branch branch' →
      (∀ passes, Parallels pairing (next passes) (next' passes)) →
      Parallels pairing (.probe branch next) (.probe branch' next')

namespace Plan

variable {pairing : Pairing} {plan plan' : Plan} {plans plans' : List Plan}

theorem all_parallels (each : List.Forall₂ (Parallels pairing) plans plans') :
    Parallels pairing (.all plans) (.all plans') := by
  induction each with
  | nil => exact .clean
  | cons hplan _ ih => exact .both hplan ih

theorem firstClean_parallels {otherwise otherwise' : Plan}
    (last : Parallels pairing otherwise otherwise')
    (each : List.Forall₂ (Parallels pairing) plans plans') :
    Parallels pairing (.firstClean otherwise plans) (.firstClean otherwise' plans') := by
  induction each with
  | nil => exact last
  | cons hplan _ ih =>
    refine .probe hplan fun passes => ?_
    cases passes with
    | true => exact .clean
    | false => exact ih

theorem countClean_parallels {next next' : Nat → Plan}
    (last : ∀ count, Parallels pairing (next count) (next' count)) (count : Nat)
    (each : List.Forall₂ (Parallels pairing) plans plans') :
    Parallels pairing (.countClean next count plans) (.countClean next' count plans') := by
  induction each generalizing count with
  | nil => exact last count
  | cons hplan _ ih => exact .probe hplan fun passes => ih _

/-- Plans made of paired entries of two lists go together if those of each pair do. -/
theorem mapped_parallels {α β : Type} {l : List α} {l' : List β} {paired : α → β → Prop}
    {plan : α → Plan} {plan' : β → Plan} (h : List.Forall₂ paired l l')
    (each : ∀ a b, paired a b → Parallels pairing (plan a) (plan' b)) :
    List.Forall₂ (Parallels pairing) (l.map plan) (l'.map plan') := by
  rw [List.forall₂_map_left_iff, List.forall₂_map_right_iff]
  exact h.imp each

/-- The same constraints, where every finding is seen alike. -/
theorem settle_parallels {schema schema' : Node} {value value' : Json} {path : Path}
    (seen : ∀ finding : Finding, pairing.view.notices
      ((finding.violation path).notice schema.json value)
      ((finding.violation path).notice schema'.json value'))
    (verdicts : List Verdict) :
    Parallels pairing (.settle schema value path verdicts) (.settle schema' value' path verdicts) := by
  apply all_parallels
  rw [List.forall₂_map_left_iff, List.forall₂_map_right_iff, List.forall₂_same]
  rintro (f | _ | finding) -
  · exact .fault f
  · exact .clean
  · exact .report (seen finding)

/-- Plans that go together do so by nodes that the first goes on with. -/
theorem Parallels.among {some : Node → Prop} (h : Parallels pairing plan plan')
    (uses : ∀ node, plan.Uses node → some node) : Parallels (pairing.among some) plan plan' := by
  induction h with
  | clean => exact .clean
  | fault f => exact .fault f
  | report seen => exact .report seen
  | both _ _ ihFirst ihSecond =>
    exact .both (ihFirst fun node h => uses node (.first h))
      (ihSecond fun node h => uses node (.second h))
  | enter path hnodes hvalues => exact .enter path ⟨hnodes, uses _ (.enter _ _ _)⟩ hvalues
  | follow hlinks hvalues => exact .follow ⟨hlinks, uses _ (.follow _ _)⟩ hvalues
  | probe _ _ ihBranch ihNext =>
    exact .probe (ihBranch fun node h => uses node (.branch h))
      fun passes => ihNext passes fun node h => uses node (.next passes h)

end Plan

/-- Two ways to go on from plans, in scopes that are alike: where what is paired is entered or
followed, it is gone through in step. -/
structure Pairing.Keeps (pairing : Pairing) (alike : Scope → Scope → Prop) (guard guard' : Guard)
    (descend descend' : Descent) : Prop where
  hook {scope scope'} : alike scope scope' → scope'.options.hook = scope.options.hook
  bounds {scope scope'} : alike scope scope' → pairing.view.Bounds scope.options.hook
  trials {scope scope'} : alike scope scope' → scope'.trials = scope.trials
  trial {scope scope'} : alike scope scope' → alike scope.trial scope'.trial
  enter {scope scope' schema schema' value value'} (path : Path) : alike scope scope' →
    pairing.nodes path schema schema' → pairing.values value value' →
    Check.Parallels pairing.view (descend scope schema value path)
      (descend' scope' schema' value' path)
  follow {scope scope' link link' value value'} : alike scope scope' → pairing.links link link' →
    pairing.values value value' →
    Check.Parallels pairing.view ((Plan.follow link value).run guard descend scope)
      ((Plan.follow link' value').run guard' descend' scope')

/-- A report is heard in both runs or in neither, and stops both or neither. -/
theorem Scope.report_parallels {view : View} {scope scope' : Scope}
    (hook : scope'.options.hook = scope.options.hook) (bounds : view.Bounds scope.options.hook)
    (trials : scope'.trials = scope.trials) {schema schema' : Node} {value value' : Json}
    {path : Path} {finding finding' : Finding}
    (seen : view.notices ((finding.violation path).notice schema.json value)
      ((finding'.violation path).notice schema'.json value')) :
    Check.Parallels view (scope.report schema value path finding)
      (scope'.report schema' value' path finding') := by
  intro heard heard' like _
  have hviolation : view.violations (finding.violation path) (finding'.violation path) :=
    view.of_notices seen
  have hfound : Answer.Alike view.violations (.ok [finding.violation path])
      (.ok [finding'.violation path]) := .found (.cons hviolation .nil)
  have hrun := on_report scope scope.trials scope.options.hook schema value path finding heard
  have hrun' :=
    on_report scope' scope'.trials scope'.options.hook schema' value' path finding' heard'
  change (scope.report schema value path finding).on heard = _ at hrun
  change (scope'.report schema' value' path finding').on heard' = _ at hrun'
  rw [hrun, hrun', hook, trials]
  cases hlistens : scope.options.hook with
  | none =>
    rw [hearing_none, hearing_none]
    exact ⟨hfound, like⟩
  | some listens =>
    split
    · have hheard := List.rel_append like (List.Forall₂.cons seen .nil)
      rw [hearing_cons, hearing_cons, bounds listens hlistens _ _ hheard]
      cases listens (heard ++ [(finding.violation path).notice schema.json value]) with
      | some message => exact ⟨.failed _, hheard⟩
      | none => exact ⟨hfound, hheard⟩
    · exact ⟨hfound, like⟩

/-- By induction on how the plans go together: what one does, the other does in step. -/
theorem Plan.run_parallels {pairing : Pairing} {alike : Scope → Scope → Prop}
    {guard guard' : Guard} {descend descend' : Descent}
    (keeps : pairing.Keeps alike guard guard' descend descend') {plan plan' : Plan}
    (h : Plan.Parallels pairing plan plan') {scope scope' : Scope} (like : alike scope scope') :
    Check.Parallels pairing.view (plan.run guard descend scope)
      (plan'.run guard' descend' scope') := by
  induction h generalizing scope scope' with
  | clean => exact fun heard heard' same _ => ⟨.found .nil, same⟩
  | fault f => exact Check.throw_parallels _ f
  | report seen =>
    exact Scope.report_parallels (keeps.hook like) (keeps.bounds like) (keeps.trials like) seen
  | @both first first' second second' _ _ ihFirst ihSecond =>
    intro heard heard' same ends
    rw [on_run_both] at ends ⊢
    rw [on_run_both]
    have hfirst := ihFirst like heard heard' same
    rcases hrun : (first.run guard descend scope).on heard with ⟨f | here, after⟩
    · rw [hrun] at ends hfirst
      obtain ⟨after', hrun', hafter⟩ := View.ends_error (hfirst ends)
      rw [hrun']
      exact ⟨.failed f, hafter⟩
    · rw [hrun] at ends hfirst
      obtain ⟨here', after', hrun', hhere, hafter⟩ := View.ends_ok (hfirst (avoids_ok here))
      rw [Check.onward_ok] at ends
      rw [hrun', Check.onward_ok, Check.onward_ok]
      have hsecond := ihSecond like after after' hafter
      rcases hrest : (second.run guard descend scope).on after with ⟨f | there, last⟩
      · rw [hrest] at ends hsecond
        obtain ⟨last', hrest', hlast⟩ := View.ends_error (hsecond ends)
        rw [hrest']
        exact ⟨.failed f, hlast⟩
      · rw [hrest] at hsecond
        obtain ⟨there', last', hrest', hthere, hlast⟩ := View.ends_ok (hsecond (avoids_ok there))
        rw [hrest']
        exact ⟨.found (List.rel_append hhere hthere), hlast⟩
  | enter path hnodes hvalues => exact keeps.enter path like hnodes hvalues
  | follow hlinks hvalues => exact keeps.follow like hlinks hvalues
  | @probe branch branch' next next' _ _ ihBranch ihNext =>
    intro heard heard' same ends
    rw [on_run_probe] at ends ⊢
    rw [on_run_probe]
    have hbranch := ihBranch (keeps.trial like) heard heard' same
    rcases hrun : (branch.run guard descend scope.trial).on heard with ⟨f | found, after⟩
    · rw [hrun] at ends hbranch
      obtain ⟨after', hrun', hafter⟩ := View.ends_error (hbranch ends)
      rw [hrun']
      exact ⟨.failed f, hafter⟩
    · rw [hrun] at ends hbranch
      obtain ⟨found', after', hrun', hfound, hafter⟩ := View.ends_ok (hbranch (avoids_ok found))
      rw [Check.onward_ok] at ends
      have hisEmpty : found'.isEmpty = found.isEmpty := by cases hfound <;> rfl
      rw [hrun', Check.onward_ok, Check.onward_ok, hisEmpty]
      exact ihNext found.isEmpty like after after' hafter ends

/-- A validation that starts ends like any check that is in step with it from there. -/
theorem validate_ends_like {view : View} {schema value : Json} {given : Given} {opened : Options}
    (opening : opening? schema given = .ok (some opened)) {check' : Check (List Violation)}
    (step : Check.Parallels view (Check.descend .chain (enough schema value opened)
      (.start opened (.document .schema schema)) (.document .schema schema) value []) check')
    {heard heard' : List Notice} (same : List.Forall₂ view.notices heard heard') :
    view.Ends ((validate schema value given).on heard) (check'.on heard') := by
  have hends : ((validate schema value given).on heard).1 ≠ .error .exhausted :=
    validateWith_ends Guard.chain_ignoresHook Guard.chain_wanes schema value given heard
  rw [validate, validateWith, opening] at hends ⊢
  exact step heard heard' same (avoids_exhausted hends)

/-- Steps beyond those that are enough make no difference to a validation. -/
theorem validate_eq_of_le {schema value : Json} {given : Given} {steps : Options → Nat}
    (le : ∀ options, enough schema value options ≤ steps options) (heard : List Notice) :
    (validateWith .chain steps schema value given).on heard =
      (validate schema value given).on heard :=
  validateWith_mono le
    (validateWith_ends Guard.chain_ignoresHook Guard.chain_wanes schema value given heard)

/-- Two validations end alike if they are in step whatever the budget. -/
theorem validate_parallels {view : View} {schema schema' value value' : Json} {given given' : Given}
    {opened opened' : Options} (opening : opening? schema given = .ok (some opened))
    (opening' : opening? schema' given' = .ok (some opened'))
    (steps : ∀ budget budget', budget ≤ budget' → Check.Parallels view
      (Check.descend .chain budget (.start opened (.document .schema schema))
        (.document .schema schema) value [])
      (Check.descend .chain budget' (.start opened' (.document .schema schema'))
        (.document .schema schema') value' []))
    {heard heard' : List Notice} (same : List.Forall₂ view.notices heard heard') :
    view.Ends ((validate schema value given).on heard)
      ((validate schema' value' given').on heard') := by
  have hmore : ∀ options, enough schema' value' options ≤
      enough schema value opened + enough schema' value' options := fun options => Nat.le_add_left _ _
  rw [← validate_eq_of_le hmore heard', validateWith, opening']
  exact validate_ends_like opening (steps _ _ (Nat.le_add_right _ _)) same

end JsonSchema
