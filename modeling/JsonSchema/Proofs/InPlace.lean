import JsonSchema.Check.InPlace
import JsonSchema.Proofs.Run

/-! A check that changes the scope in place comes to what the check with a scope of its own
comes to, and leaves the scope as it found it: in the end every block is taken back. -/
namespace JsonSchema

namespace Action

variable {α β : Type}

/-- From some scope, an action does what a check does and leaves the scope as it was,
whether it ends well or in a fault. -/
def Keeps (action : Action α) (scope : Scope) (check : Check α) : Prop :=
  ∀ heard, action.on ⟨scope, heard⟩ = ((check.on heard).1, ⟨scope, (check.on heard).2⟩)

theorem on_bind (action : Action α) (next : α → Action β) (context : Context) :
    (action >>= next).on context =
      match action.on context with
      | (.ok a, after) => (next a).on after
      | (.error f, after) => (.error f, after) := by
  refine (run_bind action next context).trans ?_
  unfold on
  rcases action.run.run context with ⟨_ | _, _⟩ <;> rfl

@[simp] theorem on_get (context : Context) :
    (get : Action Context).on context = (.ok context, context) := rfl

@[simp] theorem on_modify (change : Context → Context) (context : Context) :
    (modify change : Action PUnit).on context = (.ok ⟨⟩, change context) := rfl

@[simp] theorem on_liftM (outcome : Except Fault α) (context : Context) :
    (liftM outcome : Action α).on context = (outcome, context) := rfl

theorem on_finally (action : Action α) (change : Context → Context) (context : Context) :
    (tryFinally action (modify change : Action PUnit)).on context =
      ((action.on context).1, change (action.on context).2) :=
  run_finally action change context

theorem pure_keeps (a : α) (scope : Scope) : (pure a : Action α).Keeps scope (pure a) :=
  fun _ => rfl

theorem throw_keeps (f : Fault) (scope : Scope) :
    (throw f : Action α).Keeps scope (throw f) :=
  fun _ => rfl

theorem ofCheck_keeps (check : Scope → Check α) (scope : Scope) :
    (ofCheck check).Keeps scope (check scope) := by
  intro heard
  change (let (outcome, after) := (check scope).on heard
    (outcome, (⟨scope, after⟩ : Context))) = _
  rcases (check scope).on heard with ⟨outcome, after⟩
  rfl

theorem bind_keeps {action : Action α} {next : α → Action β} {scope : Scope} {check : Check α}
    {after : α → Check β} (hfirst : action.Keeps scope check)
    (hnext : ∀ a, (next a).Keeps scope (after a)) :
    (action >>= next).Keeps scope (check >>= after) := by
  intro heard
  rw [on_bind, hfirst heard, Check.on_bind]
  rcases check.on heard with ⟨f | a, last⟩
  · rfl
  · exact hnext a last

/-- What depends on the scope depends on it as it stands. -/
theorem get_keeps {next : Context → Action α} {scope : Scope} {check : Check α}
    (hnext : ∀ heard, (next ⟨scope, heard⟩).Keeps scope check) :
    (get >>= next).Keeps scope check := by
  intro heard
  rw [on_bind, on_get]
  exact hnext heard heard

/-- Inside a block an action runs in the scope of the block, which is left in the end. -/
theorem on_within {block : Block} {scope inner : Scope} (h : block.enter scope = .ok inner)
    (action : Action α) (heard : List Notice) :
    (within block action).on ⟨scope, heard⟩ =
      ((action.on ⟨inner, heard⟩).1,
        ⟨block.leave scope.options (action.on ⟨inner, heard⟩).2.scope,
          (action.on ⟨inner, heard⟩).2.heard⟩) := by
  simp only [within, on_bind, on_get, on_liftM, on_modify, on_finally, h]

/-- A block that is refused is not entered. -/
theorem within_keeps_of_error {block : Block} {scope : Scope} {f : Fault}
    (h : block.enter scope = .error f) (action : Action α) :
    (within block action).Keeps scope (throw f) := by
  intro heard
  simp only [within, on_bind, on_get, on_liftM, h]
  rfl

/-- What keeps the scope inside a block keeps the scope outside of it. -/
theorem within_keeps_of_ok {block : Block} {scope inner : Scope} {action : Action α}
    {check : Check α} (h : block.enter scope = .ok inner) (keeps : action.Keeps inner check) :
    (within block action).Keeps scope check := by
  intro heard
  rw [on_within h, keeps heard, Block.onto_of_enter h, Block.leave_onto]

end Action

/-- A course keeps the scope, on its own and after a trial in that scope. -/
structure Course.Keeps (course : Course) (scope : Scope) (check : Check (List Violation)) :
    Prop where
  whole : course.whole.Keeps scope check
  tried : (Course.trial course.tried).whole.Keeps scope check

namespace Course

variable {scope : Scope}

/-- What waits for the end of a trial is not touched by it. -/
theorem plain_keeps {action : Action (List Violation)} {check : Check (List Violation)}
    (keeps : action.Keeps scope check) : (plain action).Keeps scope check where
  whole := keeps
  tried := by
    intro heard
    change (Action.within .trial (pure action) >>= id).on ⟨scope, heard⟩ = _
    rw [Action.on_bind, Action.on_within rfl]
    exact keeps heard

/-- A branch and what is tried out after it can share a trial, since the branch keeps the
scope of the trial. -/
theorem branch_keeps {branch : Action (List Violation)}
    {next : List Violation → Action (Action (List Violation))}
    {check : Check (List Violation)} {after : List Violation → Check (List Violation)}
    (hbranch : branch.Keeps scope.trial check)
    (hnext : ∀ found, (trial (next found)).whole.Keeps scope (after found)) :
    (trial (branch >>= next)).Keeps scope (check >>= after) := by
  have hwhole : (trial (branch >>= next)).whole.Keeps scope (check >>= after) := by
    intro heard
    change (Action.within .trial (branch >>= next) >>= id).on ⟨scope, heard⟩ = _
    rw [Action.on_bind, Action.on_within rfl, Action.on_bind, hbranch heard, Check.on_bind]
    rcases check.on heard with ⟨f | found, told⟩
    · rfl
    · have hrest := hnext found told
      change (Action.within .trial (next found) >>= id).on ⟨scope, told⟩ = _ at hrest
      rw [Action.on_bind, Action.on_within rfl] at hrest
      exact hrest
  exact ⟨hwhole, hwhole⟩

end Course

/-- A plan that is gone through in place, above checks that are made in place. -/
theorem Plan.course_keeps {descend : Descent}
    {inPlace : Node → Json → Path → Action (List Violation)}
    (below : ∀ scope schema value path,
      (inPlace schema value path).Keeps scope (descend scope schema value path))
    (plan : Plan) (scope : Scope) :
    (plan.course inPlace).Keeps scope (plan.run .chain descend scope) := by
  induction plan generalizing scope with
  | clean => exact Course.plain_keeps (Action.pure_keeps [] scope)
  | fault f => exact Course.plain_keeps (Action.throw_keeps f scope)
  | report schema value path finding => exact Course.plain_keeps (Action.ofCheck_keeps _ scope)
  | both first second ihFirst ihSecond =>
    exact Course.plain_keeps (Action.bind_keeps (ihFirst scope).whole fun here =>
      Action.bind_keeps (ihSecond scope).whole fun there => Action.pure_keeps _ scope)
  | enter schema value path => exact Course.plain_keeps (below scope schema value path)
  | follow link value =>
    apply Course.plain_keeps
    change (Action.within (.reference link) _).Keeps scope
      (liftM (scope.follow link) >>= fun inner => descend inner link.target value link.path)
    have henter : (Block.reference link).enter scope = scope.follow link := rfl
    cases h : scope.follow link with
    | error f => exact Action.within_keeps_of_error (henter.trans h) _
    | ok inner =>
      exact Action.within_keeps_of_ok (henter.trans h)
        (below inner link.target value link.path)
  | probe branch next ihBranch ihNext =>
    exact Course.branch_keeps (ihBranch scope.trial).whole fun found =>
      (ihNext found.isEmpty scope).tried

/-- By induction on the budget. -/
theorem Check.descendInPlace_keeps (budget : Nat) (scope : Scope) (schema : Node) (value : Json)
    (path : Path) :
    (descendInPlace budget schema value path).Keeps scope
      (descend .chain budget scope schema value path) := by
  induction budget generalizing scope schema value path with
  | zero => exact Action.throw_keeps .exhausted scope
  | succ budget ih =>
    unfold descendInPlace descend
    refine Action.get_keeps fun _ => ?_
    dsimp only
    cases Options.exceeds path.length scope.options.maxDepth with
    | none => exact Action.throw_keeps _ scope
    | some tooDeep =>
      cases tooDeep with
      | true => exact Action.throw_keeps _ scope
      | false =>
        refine Action.within_keeps_of_ok rfl (Action.get_keeps fun _ => ?_)
        exact (Plan.course_keeps ih _ _).whole

end JsonSchema
