import JsonSchema.Proofs.Run

/-! The answer of a run is what it comes to when nobody listens: it depends neither on a
hook nor on whether a branch is being tried out. A run with a hook is its answer, with the
notices that it gives told to the hook in turn. -/
namespace JsonSchema

abbrev Answer := Except Fault (List Violation)

/-- What all answers find, one after another, or the first fault among them. -/
def Answer.inOrder : List Answer → Answer
  | [] => .ok []
  | first :: rest => do
    let here ← first
    return here ++ (← inOrder rest)

/-- What the nodes below come to. -/
abbrev Answers := Scope → Node → Json → Path → Answer

/-- What a plan comes to, if each node below comes to a given answer. -/
def Plan.answer (guard : Guard) (answers : Answers) (scope : Scope) : Plan → Answer
  | .clean => .ok []
  | .fault f => .error f
  | .report _ _ path finding => .ok [finding.violation path]
  | .both first second => do
    let here ← first.answer guard answers scope
    return here ++ (← second.answer guard answers scope)
  | .enter schema value path => answers scope schema value path
  | .follow link value => do
    answers (← guard.follow scope link) link.target value link.path
  | .probe branch next => do
    let found ← branch.answer guard answers scope
    (next found.isEmpty).answer guard answers scope

namespace Plan

variable {guard : Guard} {answers : Answers} {scope : Scope} {f : Fault}

theorem answer_both_of_error {first : Plan} (h : first.answer guard answers scope = .error f)
    (second : Plan) : (both first second).answer guard answers scope = .error f := by
  rw [answer, h]
  rfl

theorem answer_both_of_ok {first : Plan} {here : List Violation}
    (h : first.answer guard answers scope = .ok here) (second : Plan) :
    (both first second).answer guard answers scope =
      (second.answer guard answers scope).map (here ++ ·) := by
  rw [answer, h]
  cases second.answer guard answers scope <;> rfl

/-- What both parts find is what each finds, in order. -/
theorem answer_both_ok {first second : Plan} {violations : List Violation}
    (h : (both first second).answer guard answers scope = .ok violations) :
    ∃ here there, first.answer guard answers scope = .ok here ∧
      second.answer guard answers scope = .ok there ∧ violations = here ++ there := by
  cases hfirst : first.answer guard answers scope with
  | error f =>
    rw [answer_both_of_error hfirst] at h
    cases h
  | ok here =>
    rw [answer_both_of_ok hfirst] at h
    cases hsecond : second.answer guard answers scope with
    | error f =>
      rw [hsecond] at h
      cases h
    | ok there =>
      rw [hsecond] at h
      cases h
      exact ⟨here, there, rfl, rfl, rfl⟩

theorem answer_probe_of_error {branch : Plan} (h : branch.answer guard answers scope = .error f)
    (next : Bool → Plan) : (probe branch next).answer guard answers scope = .error f := by
  rw [answer, h]
  rfl

theorem answer_probe_of_ok {branch : Plan} {found : List Violation}
    (h : branch.answer guard answers scope = .ok found) (next : Bool → Plan) :
    (probe branch next).answer guard answers scope =
      (next found.isEmpty).answer guard answers scope := by
  rw [answer, h]
  rfl

theorem answer_probe_ok {branch : Plan} {next : Bool → Plan} {violations : List Violation}
    (h : (probe branch next).answer guard answers scope = .ok violations) :
    ∃ found, branch.answer guard answers scope = .ok found ∧
      (next found.isEmpty).answer guard answers scope = .ok violations := by
  cases hbranch : branch.answer guard answers scope with
  | error f =>
    rw [answer_probe_of_error hbranch] at h
    cases h
  | ok found =>
    rw [answer_probe_of_ok hbranch] at h
    exact ⟨found, rfl, h⟩

theorem answer_follow_of_error {link : Link} (h : guard.follow scope link = .error f)
    (value : Json) : (follow link value).answer guard answers scope = .error f := by
  rw [answer, h]
  rfl

theorem answer_follow_of_ok {link : Link} {next : Scope} (h : guard.follow scope link = .ok next)
    (value : Json) :
    (follow link value).answer guard answers scope =
      answers next link.target value link.path := by
  rw [answer, h]
  rfl

/-- A list of plans comes to what its plans come to, in order. -/
theorem answer_all (plans : List Plan) :
    (all plans).answer guard answers scope =
      .inOrder (plans.map fun plan => plan.answer guard answers scope) := by
  induction plans with
  | nil => rfl
  | cons plan rest ih => rw [all, answer, ih, List.map_cons, Answer.inOrder]

theorem answer_all_congr {α : Type} {l : List α} {plan plan' : α → Plan}
    (each : ∀ a ∈ l, (plan a).answer guard answers scope = (plan' a).answer guard answers scope) :
    (all (l.map plan)).answer guard answers scope =
      (all (l.map plan')).answer guard answers scope := by
  rw [answer_all, answer_all, List.map_map, List.map_map]
  exact congrArg Answer.inOrder (List.map_congr_left each)

/-- What a list of plans comes to, plan by plan. -/
theorem answer_all_ok {guard : Guard} {answers : Answers} {scope : Scope} {plans : List Plan}
    {violations : List Violation} (h : (all plans).answer guard answers scope = .ok violations) :
    (∀ plan ∈ plans, ∃ found, plan.answer guard answers scope = .ok found) ∧
      (violations = [] ↔ ∀ plan ∈ plans, plan.answer guard answers scope = .ok []) := by
  induction plans generalizing violations with
  | nil =>
    cases h
    simp
  | cons plan rest ih =>
    obtain ⟨here, there, hhere, hthere, rfl⟩ := answer_both_ok h
    obtain ⟨hanswers, hnil⟩ := ih hthere
    refine ⟨List.forall_mem_cons.mpr ⟨⟨here, hhere⟩, hanswers⟩, ?_⟩
    simp only [List.forall_mem_cons, List.append_eq_nil_iff, hnil, hhere, Except.ok.injEq]

end Plan

/-- What the check of a node comes to within a budget. -/
def Check.answer (guard : Guard) : Nat → Scope → Node → Json → Path → Answer
  | 0, _, _, _, _ => .error .exhausted
  | budget + 1, scope, schema, value, path =>
    match Options.exceeds path.length scope.options.maxDepth with
    | none => .error .unusableOption
    | some true => .error (.refused (.depth scope.options.maxDepth) path.text)
    | some false =>
      let inner := guard.declare scope (declared schema)
      (node inner.options inner.root schema value path).answer guard (answer guard budget) inner

/-- A scope with another hook, and with a given number of branches being tried out. -/
def Scope.listening (scope : Scope) (trials : Nat) (hook : Option Hook) : Scope :=
  { scope with trials, options := { scope.options with hook } }

/-- A guard that does the same whoever listens. -/
structure Guard.IgnoresHook (guard : Guard) : Prop where
  follow (scope : Scope) (trials : Nat) (hook : Option Hook) (link : Link) :
    guard.follow (scope.listening trials hook) link =
      (guard.follow scope link).map (·.listening trials hook)
  declare (scope : Scope) (trials : Nat) (hook : Option Hook) (extra : Definitions) :
    guard.declare (scope.listening trials hook) extra =
      (guard.declare scope extra).listening trials hook

theorem Guard.chain_ignoresHook : Guard.chain.IgnoresHook where
  follow scope trials hook link := by
    change Scope.follow _ _ = (Scope.follow _ _).map _
    unfold Scope.follow
    by_cases h : scope.chain.any (·.isSame link)
    · rw [if_pos h, if_pos (show (scope.listening trials hook).chain.any _ = true from h)]
      rfl
    · rw [if_neg h, if_neg (show ¬ (scope.listening trials hook).chain.any _ = true from h)]
      rfl
  declare _ _ _ _ := rfl

/-- Tells notices to a hook in turn, on top of those that it has heard. The outcome is the
given one unless the hook asks to stop. -/
def hearing {α : Type} (hook : Option Hook) (outcome : Except Fault α) (heard : List Notice) :
    List Notice → Except Fault α × List Notice
  | [] => (outcome, heard)
  | notice :: rest =>
    match hook with
    | none => (outcome, heard)
    | some listens =>
      match listens (heard ++ [notice]) with
      | some message => (.error (.stopped message), heard ++ [notice])
      | none => hearing hook outcome (heard ++ [notice]) rest

@[simp] theorem hearing_nil {α : Type} (hook : Option Hook) (outcome : Except Fault α)
    (heard : List Notice) : hearing hook outcome heard [] = (outcome, heard) := rfl

@[simp] theorem hearing_none {α : Type} (outcome : Except Fault α) (heard told : List Notice) :
    hearing none outcome heard told = (outcome, heard) := by
  cases told <;> rfl

theorem hearing_cons {α : Type} (listens : Hook) (outcome : Except Fault α)
    (heard : List Notice) (notice : Notice) (rest : List Notice) :
    hearing (some listens) outcome heard (notice :: rest) =
      match listens (heard ++ [notice]) with
      | some message => (.error (.stopped message), heard ++ [notice])
      | none => hearing (some listens) outcome (heard ++ [notice]) rest := rfl

/-- A hook can only make an outcome a stop. -/
theorem hearing_fst {α : Type} (hook : Option Hook) (outcome : Except Fault α)
    (heard told : List Notice) :
    (hearing hook outcome heard told).1 = outcome ∨
      ∃ message, (hearing hook outcome heard told).1 = .error (.stopped message) := by
  cases hook with
  | none =>
    rw [hearing_none]
    exact .inl rfl
  | some listens =>
    induction told generalizing heard with
    | nil => exact .inl rfl
    | cons notice rest ih =>
      rw [hearing_cons]
      cases listens (heard ++ [notice]) with
      | some message => exact .inr ⟨message, rfl⟩
      | none => exact ih (heard ++ [notice])

theorem hearing_ok {α : Type} {hook : Option Hook} {outcome : Except Fault α}
    {heard told after : List Notice} {a : α}
    (h : hearing hook outcome heard told = (.ok a, after)) : outcome = .ok a := by
  rcases hearing_fst hook outcome heard told with hsame | ⟨message, hstop⟩
  · rw [← hsame, h]
  · rw [h] at hstop
    cases hstop

/-- After an outcome that is no fault, what comes next is told on top of it. -/
theorem onward_hearing_ok {α β : Type} (hook : Option Hook) (a : α) (outcome : Except Fault β)
    (heard told more : List Notice) (next : α → List Notice → Except Fault β × List Notice)
    (hnext : ∀ after, next a after = hearing hook outcome after more) :
    Check.onward (hearing hook (.ok a) heard told) next =
      hearing hook outcome heard (told ++ more) := by
  cases hook with
  | none =>
    simp only [hearing_none, Check.onward_ok] at hnext ⊢
    exact hnext heard
  | some listens =>
    induction told generalizing heard with
    | nil => exact hnext heard
    | cons notice rest ih =>
      rw [List.cons_append, hearing_cons, hearing_cons]
      cases listens (heard ++ [notice]) with
      | some message => rfl
      | none => exact ih (heard ++ [notice])

/-- A fault remains what it is, also when something would come next. -/
theorem onward_hearing_error {α β : Type} (hook : Option Hook) (f : Fault)
    (heard told : List Notice) (next : α → List Notice → Except Fault β × List Notice) :
    Check.onward (hearing hook (.error f) heard told) next =
      hearing hook (.error f) heard told := by
  cases hook with
  | none =>
    simp only [hearing_none]
    rfl
  | some listens =>
    induction told generalizing heard with
    | nil => rfl
    | cons notice rest ih =>
      rw [hearing_cons, hearing_cons]
      cases listens (heard ++ [notice]) with
      | some message => rfl
      | none => exact ih (heard ++ [notice])

/-- A violation with the text of its place, as a hook hears of both. -/
def Violation.placed (violation : Violation) : Violation × String :=
  (violation, violation.path.text)

/-- What a hook hears of a violation. -/
def Notice.told (notice : Notice) : Violation × String :=
  (notice.violation, notice.place)

/-- A check that has an answer whoever listens, and tells some notices on the way: none
while branches are tried out, and otherwise those of the violations in the answer. -/
structure Tells (check : Option Hook → Check (List Violation)) (trials : Nat) (answer : Answer)
    (told : List Notice) : Prop where
  on_eq (hook : Option Hook) (heard : List Notice) :
    (check hook).on heard = hearing hook answer heard told
  quiet : 0 < trials → told = []
  faithful (violations : List Violation) :
    trials = 0 → answer = .ok violations → told.map Notice.told = violations.map Violation.placed

/-- In every node below, a run tells its answer. -/
def TellAll (descend : Descent) (answers : Answers) : Prop :=
  ∀ scope trials schema value path, ∃ told,
    Tells (fun hook => descend (scope.listening trials hook) schema value path) trials
      (answers scope schema value path) told

namespace Tells

theorem ok_nil (trials : Nat) : Tells (fun _ => pure []) trials (.ok []) [] where
  on_eq _ _ := rfl
  quiet _ := rfl
  faithful violations _ h := by
    cases h
    rfl

theorem error (trials : Nat) (f : Fault) : Tells (fun _ => throw f) trials (.error f) [] where
  on_eq _ _ := rfl
  quiet _ := rfl
  faithful _ _ h := nomatch h

end Tells

theorem on_notify (scope : Scope) (listens : Hook) (notice : Notice) (heard : List Notice) :
    ((scope.listening 0 (some listens)).notify notice).on heard =
      match listens (heard ++ [notice]) with
      | some message => (.error (.stopped message), heard ++ [notice])
      | none => (.ok (), heard ++ [notice]) := by
  have hset : ((scope.listening 0 (some listens)).notify notice).on heard =
      Check.on
        (match listens (heard ++ [notice]) with
        | some message => throw (.stopped message)
        | none => pure ()) (heard ++ [notice]) := rfl
  rw [hset]
  cases listens (heard ++ [notice]) <;> rfl

theorem on_report (scope : Scope) (trials : Nat) (hook : Option Hook) (schema : Node)
    (value : Json) (path : Path) (finding : Finding) (heard : List Notice) :
    ((scope.listening trials hook).report schema value path finding).on heard =
      hearing hook (.ok [finding.violation path]) heard
        (if trials = 0 then [(finding.violation path).notice schema.json value] else []) := by
  cases hook with
  | none =>
    rw [hearing_none]
    rfl
  | some listens =>
    cases trials with
    | zero =>
      rw [if_pos rfl, hearing_cons, Scope.report, Check.on_bind, on_notify]
      cases listens (heard ++ [(finding.violation path).notice schema.json value]) <;> rfl
    | succ trials => rfl

namespace Tells

variable {trials : Nat} {answer answer' : Answer} {told told' : List Notice}

theorem report (scope : Scope) (trials : Nat) (schema : Node) (value : Json) (path : Path)
    (finding : Finding) :
    Tells (fun hook => (scope.listening trials hook).report schema value path finding) trials
      (.ok [finding.violation path])
      (if trials = 0 then [(finding.violation path).notice schema.json value] else []) where
  on_eq hook heard := on_report scope trials hook schema value path finding heard
  quiet h := if_neg (Nat.ne_of_gt h)
  faithful violations h hok := by
    cases hok
    rw [if_pos h]
    rfl

end Tells

/-- The notices of both parts of a plan are told, unless the first ends in a fault. -/
theorem Plan.both_tells {guard : Guard} {descend : Descent}
    {answers : Answers} {first second : Plan} {scope : Scope}
    {trials : Nat} {told told' : List Notice}
    (hfirst : Tells (fun hook => first.run guard descend (scope.listening trials hook)) trials
      (first.answer guard answers scope) told)
    (hsecond : Tells (fun hook => second.run guard descend (scope.listening trials hook)) trials
      (second.answer guard answers scope) told') :
    ∃ told, Tells
      (fun hook => (Plan.both first second).run guard descend (scope.listening trials hook)) trials
      ((Plan.both first second).answer guard answers scope) told := by
  unfold Plan.answer
  cases h : first.answer guard answers scope with
  | error f =>
    refine ⟨told, fun hook heard => ?_, hfirst.quiet, fun _ _ hok => nomatch hok⟩
    rw [on_run_both, hfirst.on_eq, h, onward_hearing_error]
    rfl
  | ok here =>
    cases h' : second.answer guard answers scope with
    | error f =>
      refine ⟨told ++ told', fun hook heard => ?_, fun htrials => ?_,
        fun _ _ hok => nomatch hok⟩
      · rw [on_run_both, hfirst.on_eq, h]
        apply onward_hearing_ok
        intro after
        rw [hsecond.on_eq, h', onward_hearing_error]
        rfl
      · rw [hfirst.quiet htrials, hsecond.quiet htrials, List.append_nil]
    | ok there =>
      refine ⟨told ++ told', fun hook heard => ?_, fun htrials => ?_,
        fun violations htrials hok => ?_⟩
      · rw [on_run_both, hfirst.on_eq, h]
        apply onward_hearing_ok
        intro after
        rw [hsecond.on_eq, h', onward_hearing_ok hook there (.ok (here ++ there)) after told' [] _
          fun _ => rfl, List.append_nil]
        rfl
      · rw [hfirst.quiet htrials, hsecond.quiet htrials, List.append_nil]
      · cases hok
        rw [List.map_append, hfirst.faithful here htrials h, hsecond.faithful there htrials h',
          List.map_append]

/-- What a branch tells is nothing, so only what comes next tells something. -/
theorem Plan.probe_tells {guard : Guard} {descend : Descent}
    {answers : Answers} {branch : Plan} {next : Bool → Plan}
    {scope : Scope} {trials : Nat} {told : List Notice}
    (hbranch : Tells (fun hook => branch.run guard descend (scope.listening (trials + 1) hook))
      (trials + 1) (branch.answer guard answers scope) told)
    (hnext : ∀ passes, ∃ told, Tells
      (fun hook => (next passes).run guard descend (scope.listening trials hook)) trials
      ((next passes).answer guard answers scope) told) :
    ∃ told, Tells
      (fun hook => (Plan.probe branch next).run guard descend (scope.listening trials hook)) trials
      ((Plan.probe branch next).answer guard answers scope) told := by
  have hsilent := hbranch.quiet (Nat.succ_pos trials)
  subst hsilent
  have htrial (hook : Option Hook) :
      (scope.listening trials hook).trial = scope.listening (trials + 1) hook := rfl
  unfold Plan.answer
  cases h : branch.answer guard answers scope with
  | error f =>
    refine ⟨[], fun hook heard => ?_, fun _ => rfl, fun _ _ hok => nomatch hok⟩
    rw [on_run_probe, htrial, hbranch.on_eq, h]
    rfl
  | ok found =>
    obtain ⟨told, htold⟩ := hnext found.isEmpty
    refine ⟨told, fun hook heard => ?_, htold.quiet, htold.faithful⟩
    rw [on_run_probe, htrial, hbranch.on_eq, h]
    exact htold.on_eq hook heard

/-- A plan is gone through to its answer, whoever listens. -/
theorem Plan.run_tells {guard : Guard} (ignores : guard.IgnoresHook) {descend : Descent}
    {answers : Answers} (below : TellAll descend answers) (plan : Plan)
    (scope : Scope) (trials : Nat) :
    ∃ told, Tells (fun hook => plan.run guard descend (scope.listening trials hook)) trials
      (plan.answer guard answers scope) told := by
  induction plan generalizing trials with
  | clean => exact ⟨[], Tells.ok_nil trials⟩
  | fault f => exact ⟨[], Tells.error trials f⟩
  | report schema value path finding =>
    exact ⟨_, Tells.report scope trials schema value path finding⟩
  | both first second ihFirst ihSecond =>
    obtain ⟨told, hfirst⟩ := ihFirst trials
    obtain ⟨told', hsecond⟩ := ihSecond trials
    exact both_tells hfirst hsecond
  | enter schema value path => exact below scope trials schema value path
  | follow link value =>
    unfold Plan.answer
    cases h : guard.follow scope link with
    | error f =>
      refine ⟨[], fun hook heard => ?_, fun _ => rfl, fun _ _ hok => nomatch hok⟩
      rw [on_run_follow, ignores.follow, h]
      rfl
    | ok inner =>
      obtain ⟨told, htold⟩ := below inner trials link.target value link.path
      refine ⟨told, fun hook heard => ?_, htold.quiet, htold.faithful⟩
      rw [on_run_follow, ignores.follow, h]
      exact htold.on_eq hook heard
  | probe branch next ihBranch ihNext =>
    obtain ⟨told, hbranch⟩ := ihBranch (trials + 1)
    exact probe_tells hbranch fun passes => ihNext passes trials

theorem Check.descend_tells {guard : Guard} (ignores : guard.IgnoresHook) (budget : Nat) :
    TellAll (descend guard budget) (answer guard budget) := by
  induction budget with
  | zero =>
    intro scope trials schema value path
    exact ⟨[], Tells.error trials .exhausted⟩
  | succ budget ih =>
    intro scope trials schema value path
    unfold descend answer
    have hmax (hook : Option Hook) :
        (scope.listening trials hook).options.maxDepth = scope.options.maxDepth := rfl
    have hnode (inner : Scope) (hook : Option Hook) :
        node (inner.listening trials hook).options (inner.listening trials hook).root schema value
          path = node inner.options inner.root schema value path := rfl
    simp only [hmax, ignores.declare, hnode]
    cases Options.exceeds path.length scope.options.maxDepth with
    | none => exact ⟨[], Tells.error trials .unusableOption⟩
    | some tooDeep =>
      cases tooDeep with
      | true => exact ⟨[], Tells.error trials _⟩
      | false =>
        exact Plan.run_tells ignores ih _ (guard.declare scope (declared schema)) trials

/-- Where nobody listens, a run comes to its answer and tells nothing. -/
theorem Plan.on_run_quiet {guard : Guard} (ignores : guard.IgnoresHook) {budget : Nat}
    {scope : Scope} {plan : Plan} :
    (plan.run guard (Check.descend guard budget) (scope.listening 0 none)).on [] =
      (plan.answer guard (Check.answer guard budget) scope, []) := by
  obtain ⟨told, htold⟩ := plan.run_tells ignores (Check.descend_tells ignores budget) scope 0
  rw [htold.on_eq none [], hearing_none]

theorem Check.on_descend_quiet {guard : Guard} (ignores : guard.IgnoresHook) (budget : Nat)
    (scope : Scope) (schema : Node) (value : Json) (path : Path) :
    (descend guard budget (scope.listening 0 none) schema value path).on [] =
      (answer guard budget scope schema value path, []) := by
  obtain ⟨told, htold⟩ := descend_tells ignores budget scope 0 schema value path
  rw [htold.on_eq none [], hearing_none]

/-- A run comes to its answer, and tells the hook of its scope on the way. -/
theorem Check.on_descend {guard : Guard} (ignores : guard.IgnoresHook) (budget : Nat)
    (scope : Scope) (schema : Node) (value : Json) (path : Path) :
    ∃ told, ∀ heard, (descend guard budget scope schema value path).on heard =
      hearing scope.options.hook (answer guard budget scope schema value path) heard told := by
  obtain ⟨told, htold⟩ := descend_tells ignores budget scope scope.trials schema value path
  exact ⟨told, htold.on_eq scope.options.hook⟩

/-- A run comes to its answer, unless its hook stops it. -/
theorem Check.descend_comes_to {guard : Guard} (ignores : guard.IgnoresHook) (budget : Nat)
    (scope : Scope) (schema : Node) (value : Json) (path : Path) (heard : List Notice) :
    ((descend guard budget scope schema value path).on heard).1 =
        answer guard budget scope schema value path ∨
      ∃ message, ((descend guard budget scope schema value path).on heard).1 =
        .error (.stopped message) := by
  obtain ⟨told, hrun⟩ := on_descend ignores budget scope schema value path
  rw [hrun]
  exact hearing_fst _ _ _ _

/-- What holds of runs holds of their answers. -/
theorem Check.answer_agrees {bad : Fault → Prop} {alike : Scope → Scope → Prop}
    {guard guard' : Guard} (ignores : guard.IgnoresHook) (ignores' : guard'.IgnoresHook)
    (simulates : guard.Simulates bad alike guard') (bad_exhausted : bad .exhausted)
    {budget budget' : Nat} (le : budget ≤ budget') {scope scope' : Scope}
    (like : alike (scope.listening 0 none) (scope'.listening 0 none)) {schema : Node}
    {value : Json} {path : Path} (good : Avoids bad (answer guard budget scope schema value path)) :
    answer guard' budget' scope' schema value path =
      answer guard budget scope schema value path := by
  have hagrees := descend_agrees simulates bad_exhausted le _ _ like schema value path []
  rw [on_descend_quiet ignores, on_descend_quiet ignores'] at hagrees
  exact congrArg Prod.fst (hagrees good)

end JsonSchema
