import JsonSchema.Proofs.Guards
import JsonSchema.Proofs.Termination

/-! Which cycles are genuine. A reference that is followed again at the same place with the
same definitions in force is followed again and again; one that is followed again after a
name has been bound may lead elsewhere. -/
namespace JsonSchema

/-- An outcome that refuses a reference as circular. -/
def Circular {α : Type} (outcome : Except Fault α) : Prop :=
  ∃ references context, outcome = .error (.refused (.cycle references) context)

/-- Without a guard, a number of steps is enough. -/
def Finishes (steps : Nat) (scope : Scope) (schema : Node) (value : Json) (path : Path) : Prop :=
  Check.answer .unguarded steps scope schema value path ≠ .error .exhausted

variable {scope scope' : Scope} {schema : Node} {value : Json} {path : Path}

/-- Two runs without a guard that both finish come to the same. -/
theorem Finishes.answer_eq {steps steps' : Nat} (finishes : Finishes steps scope schema value path)
    (le : steps ≤ steps') (alike : scope.Alike scope') :
    Check.answer .unguarded steps' scope' schema value path =
      Check.answer .unguarded steps scope schema value path := by
  apply Check.answer_agrees Guard.unguarded_ignoresHook Guard.unguarded_ignoresHook
    Guard.unguarded_simulates rfl le
  · exact ⟨congrArg (fun options : Options => { options with hook := none }) alike.options,
      alike.root, rfl⟩
  · exact avoids_exhausted finishes

theorem Finishes.alike {steps : Nat} (finishes : Finishes steps scope schema value path)
    (alike : scope.Alike scope') : Finishes steps scope' schema value path := by
  unfold Finishes
  rw [finishes.answer_eq (Nat.le_refl steps) alike]
  exact finishes

theorem not_finishes_zero : ¬ Finishes 0 scope schema value path :=
  fun finishes => finishes rfl

/-- What a run that refuses no reference as circular finds, it finds without a guard. -/
theorem answer_eq_of_ok {steady steps : Nat} (alike : scope.Alike scope')
    {violations : List Violation}
    (ok : Check.answer .steady steady scope schema value path = .ok violations)
    (finishes : Finishes steps scope' schema value path) :
    Check.answer .unguarded steps scope' schema value path = .ok violations := by
  have hsteady : Check.answer .unguarded (max steady steps) scope' schema value path =
      Check.answer .steady steady scope schema value path := by
    apply Check.answer_agrees Guard.steady_ignoresHook Guard.unguarded_ignoresHook
      Guard.steady_simulates trivial (Nat.le_max_left _ _)
    · exact ⟨congrArg (fun options : Options => { options with hook := none }) alike.options,
        alike.root, rfl⟩
    · rw [ok]
      exact avoids_ok violations
  rw [← finishes.answer_eq (Nat.le_max_right steady steps) (.refl scope'), hsteady, ok]

/-- What a plan finds with the guard, it finds without one. -/
theorem Plan.answer_eq_of_ok {plan : Plan} {steady steps : Nat} (alike : scope.Alike scope')
    {violations : List Violation}
    (ok : plan.answer .steady (Check.answer .steady steady) scope = .ok violations)
    (finishes : plan.answer .unguarded (Check.answer .unguarded steps) scope' ≠
      .error .exhausted) :
    plan.answer .unguarded (Check.answer .unguarded steps) scope' = .ok violations := by
  induction plan generalizing violations with
  | clean => exact ok
  | fault f => cases ok
  | report schema value path finding => exact ok
  | both first second ihFirst ihSecond =>
    obtain ⟨here, there, hhere, hthere, rfl⟩ := answer_both_ok ok
    have hfirst := ihFirst hhere fun h => finishes (answer_both_of_error h second)
    rw [answer_both_of_ok hfirst] at finishes ⊢
    rw [ihSecond hthere fun h => finishes (by rw [h]; rfl)]
    rfl
  | enter schema value path => exact JsonSchema.answer_eq_of_ok alike ok finishes
  | follow link value =>
    cases hlink : Guard.steady.follow scope link with
    | error f =>
      rw [answer_follow_of_error hlink] at ok
      cases ok
    | ok inner =>
      rw [answer_follow_of_ok hlink] at ok
      obtain ⟨_, rfl⟩ := Scope.followSteadily_ok hlink
      exact JsonSchema.answer_eq_of_ok (alike.follow link) ok finishes
  | probe branch next ihBranch ihNext =>
    obtain ⟨found, hfound, hnext⟩ := answer_probe_ok ok
    have hbranch := ihBranch hfound fun h => finishes (answer_probe_of_error h next)
    rw [answer_probe_of_ok hbranch] at finishes ⊢
    exact ihNext found.isEmpty hnext finishes

/-- Links on the chain lead to what their references resolve to, no deeper than a place. -/
def Scope.Chained (scope : Scope) (path : Path) : Prop :=
  ∀ link ∈ scope.chain, link.path.length ≤ path.length ∧
    resolve? (.str link.reference) scope.options.definitions scope.root = .ok (some link.target)

/-- The target of a link on the chain finishes at a place in fewer steps. -/
def Scope.Recurs (scope : Scope) (value : Json) (path : Path) (steps : Nat) : Prop :=
  ∃ link ∈ scope.chain, link.path = path ∧
    ∃ fewer, fewer < steps ∧ Finishes fewer scope link.target value path

theorem Scope.Recurs.mono {scope : Scope} {value : Json} {path : Path} {steps steps' : Nat}
    (h : scope.Recurs value path steps) (le : steps ≤ steps') :
    scope.Recurs value path steps' := by
  obtain ⟨link, hlink, hpath, fewer, hfewer, hfinishes⟩ := h
  exact ⟨link, hlink, hpath, fewer, by omega, hfinishes⟩

/-- Links on the chain at a place stay there, and no link is deeper than the place. -/
theorem Scope.Chained.deeper {scope : Scope} {path : Path} (chained : scope.Chained path)
    (step : Step) : scope.Chained (path ++ [step]) := by
  intro link hlink
  obtain ⟨hpath, hresolve⟩ := chained link hlink
  rw [List.length_append]
  exact ⟨by omega, hresolve⟩

theorem Scope.Chained.not_recurs_deeper {scope : Scope} {value : Json} {path : Path} {step : Step}
    {steps : Nat} (chained : scope.Chained path) :
    ¬ scope.Recurs value (path ++ [step]) steps := by
  rintro ⟨link, hlink, hpath, _⟩
  have hle := (chained link hlink).1
  rw [hpath, List.length_append] at hle
  simp at hle

/-- A reference is a text. -/
theorem eq_str_of_resolve? {ref : Json} {table : Definitions} {root : Option Node} {target : Node}
    (h : resolve? ref table root = .ok (some target)) : ref = .str ref.display := by
  cases ref with
  | str name => rfl
  | _ => cases h

/-- Where every circular answer below recurs, following a reference does. If its target
finished, it would finish again in fewer steps each time, unless an earlier link does. -/
theorem follow_recurs {steady : Nat} {path : Path} {value : Json} {link : Link}
    (below : ∀ scope schema value path steps, Scope.Chained scope path →
      Circular (Check.answer .steady steady scope schema value path) →
      Finishes steps scope schema value path → scope.Recurs value path steps)
    {scope : Scope} (chained : scope.Chained path) (hpath : link.path = path)
    (hresolve : resolve? (.str link.reference) scope.options.definitions scope.root =
      .ok (some link.target))
    (circular : Circular ((Plan.follow link value).answer .steady
      (Check.answer .steady steady) scope))
    (steps : Nat) (finishes : Finishes steps scope link.target value path) :
    scope.Recurs value path (steps + 1) := by
  cases hlink : Guard.steady.follow scope link with
  | error f =>
    obtain ⟨hfollowed, _⟩ := Scope.followSteadily_error hlink
    obtain ⟨other, hother, hsame⟩ := List.any_eq_true.mp hfollowed
    rw [Bool.and_eq_true, beq_iff_eq, beq_iff_eq] at hsame
    have hresolve' := (chained other hother).2
    rw [hsame.1, hresolve] at hresolve'
    have htarget : link.target = other.target := Option.some.inj (Except.ok.inj hresolve')
    rw [htarget] at finishes
    exact ⟨other, hother, hsame.2.trans hpath, steps, Nat.lt_succ_self steps, finishes⟩
  | ok next =>
    rw [Plan.answer_follow_of_ok hlink, hpath] at circular
    obtain ⟨_, rfl⟩ := Scope.followSteadily_ok hlink
    have halike : scope.Alike { scope with chain := scope.chain ++ [link] } := ⟨rfl, rfl, rfl⟩
    have hchained : Scope.Chained { scope with chain := scope.chain ++ [link] } path := by
      intro other hother
      rcases List.mem_append.mp hother with hold | hnew
      · exact chained other hold
      · cases List.mem_singleton.mp hnew
        exact ⟨Nat.le_of_eq (congrArg List.length hpath), hresolve⟩
    induction steps using Nat.strongRecOn with
    | ind steps ih =>
      obtain ⟨other, hother, hplace, fewer, hfewer, hfinishes⟩ :=
        below _ link.target value path steps hchained circular (finishes.alike halike)
      have hfinishes' := hfinishes.alike halike.symm
      rcases List.mem_append.mp hother with hold | hnew
      · exact ⟨other, hold, hplace, fewer, by omega, hfinishes'⟩
      · cases List.mem_singleton.mp hnew
        exact (ih fewer hfewer hfinishes').mono (by omega)

/-- Where every circular answer below recurs, that of a plan does. -/
theorem Plan.recurs {steady steps : Nat} {schema : Node} {value : Json} {path : Path}
    (below : ∀ scope schema value path steps, Scope.Chained scope path →
      Circular (Check.answer .steady steady scope schema value path) →
      Finishes steps scope schema value path → scope.Recurs value path steps)
    {scope scope' : Scope} (alike : scope.Alike scope') (chained : scope.Chained path)
    {plan : Plan} (every : plan.Every (fun f => ¬ f.OfRun)
      (Check.Leads scope.options schema value path)
      (Check.Refers scope.options scope.root schema value path))
    (circular : Circular (plan.answer .steady (Check.answer .steady steady) scope))
    (finishes : plan.answer .unguarded (Check.answer .unguarded steps) scope' ≠
      .error .exhausted) :
    scope.Recurs value path (steps + 1) := by
  induction plan with
  | clean =>
    obtain ⟨_, _, h⟩ := circular
    cases h
  | fault f =>
    obtain ⟨_, _, h⟩ := circular
    cases h
    exact absurd trivial every
  | report _ _ _ _ =>
    obtain ⟨_, _, h⟩ := circular
    cases h
  | both first second ihFirst ihSecond =>
    cases hfirst : first.answer .steady (Check.answer .steady steady) scope with
    | error f =>
      rw [answer_both_of_error hfirst] at circular
      rw [hfirst] at ihFirst
      exact ihFirst every.1 circular fun h => finishes (answer_both_of_error h second)
    | ok here =>
      have hhere := answer_eq_of_ok alike hfirst fun h => finishes (answer_both_of_error h second)
      rw [answer_both_of_ok hhere] at finishes
      rw [answer_both_of_ok hfirst] at circular
      refine ihSecond every.2 ?_ fun h => finishes (by rw [h]; rfl)
      obtain ⟨references, context, h⟩ := circular
      cases hsecond : second.answer .steady (Check.answer .steady steady) scope with
      | error f =>
        rw [hsecond] at h
        cases h
        exact ⟨references, context, rfl⟩
      | ok there =>
        rw [hsecond] at h
        cases h
  | enter node part path' =>
    cases every with
    | here beneath =>
      have hfinishes : Finishes steps scope' node value path := finishes
      exact (below _ _ _ _ _ chained circular (hfinishes.alike alike.symm)).mono
        (Nat.le_succ steps)
    | part step _ _ =>
      have hfinishes : Finishes steps scope' node part (path ++ [step]) := finishes
      exact absurd (below _ _ _ _ _ (chained.deeper step) circular
        (hfinishes.alike alike.symm)) chained.not_recurs_deeper
  | follow link other =>
    cases every with
    | @ref ref target beneath hresolve =>
      have hfinishes : Finishes steps { scope' with chain := scope'.chain ++ [_] } target value
          path := finishes
      refine follow_recurs below chained rfl ?_ circular steps (hfinishes.alike ?_)
      · rw [← eq_str_of_resolve? hresolve]
        exact hresolve
      · exact ⟨alike.options.symm, alike.root.symm, alike.trials.symm⟩
  | probe branch next ihBranch ihNext =>
    cases hbranch : branch.answer .steady (Check.answer .steady steady) scope with
    | error f =>
      rw [answer_probe_of_error hbranch] at circular
      rw [hbranch] at ihBranch
      exact ihBranch every.1 circular fun h => finishes (answer_probe_of_error h next)
    | ok found =>
      have hfound := answer_eq_of_ok alike hbranch
        fun h => finishes (answer_probe_of_error h next)
      rw [answer_probe_of_ok hfound] at finishes
      rw [answer_probe_of_ok hbranch] at circular
      exact ihNext found.isEmpty (every.2 found.isEmpty) circular finishes

/-- If a node finished where its answer is circular, the target of a link on the chain would
finish in fewer steps. By induction on the budget; when a name is bound, the chain is empty,
and nothing on it can recur. -/
theorem Check.answer_recurs (steady : Nat) :
    ∀ scope schema value path steps, Scope.Chained scope path →
      Circular (answer .steady steady scope schema value path) →
      Finishes steps scope schema value path → scope.Recurs value path steps := by
  induction steady with
  | zero =>
    rintro scope schema value path steps _ ⟨_, _, h⟩ _
    cases h
  | succ steady ih =>
    intro scope schema value path steps chained circular finishes
    obtain ⟨less, rfl⟩ : ∃ less, steps = less + 1 := by
      cases steps with
      | zero => exact absurd finishes not_finishes_zero
      | succ less => exact ⟨less, rfl⟩
    unfold Finishes at finishes
    rw [answer] at circular finishes
    rcases hdepth : Options.exceeds path.length scope.options.maxDepth with _ | _ | _
    · rw [hdepth] at circular
      obtain ⟨_, _, h⟩ := circular
      cases h
    · rw [hdepth] at circular finishes
      dsimp only at circular finishes
      have alike := Scope.declareSteadily_alike (.refl scope) (declared schema)
      change Plan.answer .unguarded _ (scope.withDefinitions (declared schema))
        (node (scope.withDefinitions (declared schema)).options
          (scope.withDefinitions (declared schema)).root schema value path) ≠ _ at finishes
      rw [alike.options, alike.root] at finishes
      have recurs (chained' : (scope.declareSteadily (declared schema)).Chained path) :=
        Plan.recurs ih alike chained' node_every_plain circular finishes
      cases hadds : scope.options.definitions.adds (declared schema) with
      | true =>
        have hinner : (scope.declareSteadily (declared schema)).chain = [] :=
          congrArg Scope.chain (if_pos hadds)
        obtain ⟨link, hlink, _⟩ := recurs fun link hlink => by
          rw [hinner] at hlink
          cases hlink
        rw [hinner] at hlink
        cases hlink
      | false =>
        have hinner : scope.declareSteadily (declared schema) = scope := by
          rw [Scope.declareSteadily, if_neg (by simp [hadds]),
            Scope.withDefinitions_of_not_adds hadds]
        rw [hinner] at recurs
        exact recurs chained
    · rw [hdepth] at circular
      obtain ⟨_, _, h⟩ := circular
      cases h

/-- An outcome that is no end of the run's own: its steps are spent, or a hook has asked to
stop. -/
def Unfinished {α : Type} (outcome : Except Fault α) : Prop :=
  outcome = .error .exhausted ∨ ∃ message, outcome = .error (.stopped message)

/-- From a circular answer nothing that is followed comes to an end without a guard. -/
theorem answerWith_exhausted {budget : Options → Nat} {schema value : Json} {given : Given}
    (circular : Circular (answerWith .steady budget schema value given))
    (steps : Options → Nat) :
    answerWith .unguarded steps schema value given = .error .exhausted := by
  unfold answerWith at circular ⊢
  rcases hopening : opening? schema given with f | _ | opened
  · rw [hopening] at circular
    obtain ⟨references, context, h⟩ := circular
    cases h
    exact absurd trivial (opening?_error hopening)
  · rw [hopening] at circular
    obtain ⟨_, _, h⟩ := circular
    cases h
  · rw [hopening] at circular
    by_contra hfinishes
    obtain ⟨link, hlink, _⟩ := Check.answer_recurs _ _ _ _ _ _
      (fun link hlink => absurd hlink List.not_mem_nil) circular hfinishes
    cases hlink

theorem validateWith_steady_ends (schema value : Json) (given : Given) (heard : List Notice) :
    ((validateWith .steady (enough schema value) schema value given).on heard).1 ≠
      .error .exhausted :=
  validateWith_ends Guard.steady_ignoresHook Guard.steady_wanes schema value given heard

theorem unfinished_of_circular {schema value : Json} {given : Given} {heard : List Notice}
    (circular :
      Circular ((validateWith .steady (enough schema value) schema value given).on heard).1)
    (steps : Options → Nat) :
    Unfinished ((validateWith .unguarded steps schema value given).on heard).1 := by
  have hanswer : Circular (answerWith .steady (enough schema value) schema value given) := by
    rcases validateWith_fst Guard.steady_ignoresHook (enough schema value) schema value given
      heard with hsame | ⟨message, hstop⟩
    · rw [← hsame]
      exact circular
    · obtain ⟨_, _, h⟩ := circular
      rw [hstop] at h
      cases h
  rw [Unfinished, ← answerWith_exhausted hanswer steps]
  exact validateWith_fst Guard.unguarded_ignoresHook steps schema value given heard

theorem unfinished_of_stopped {schema value : Json} {given : Given} {heard : List Notice}
    {message : String}
    (stopped : ((validateWith .steady (enough schema value) schema value given).on heard).1 =
      .error (.stopped message)) (steps : Options → Nat) :
    Unfinished ((validateWith .unguarded steps schema value given).on heard).1 := by
  have hgood : Avoids Fault.OfRun
      ((validateWith .steady (enough schema value) schema value given).on heard).1 := by
    intro f hf
    rw [stopped] at hf
    cases hf
    exact id
  by_cases hends : ((validateWith .unguarded steps schema value given).on heard).1 =
      .error .exhausted
  · exact .inl hends
  · have hmore : (validateWith .unguarded
        (fun options => max (steps options) (enough schema value options)) schema value given).on
          heard = (validateWith .unguarded steps schema value given).on heard :=
      validateWith_mono (fun _ => Nat.le_max_left _ _) hends
    have hsame := validateWith_agrees Guard.steady_simulates trivial Scope.Alike.refl
      (fun options => Nat.le_max_right (steps options) (enough schema value options)) hgood
    rw [← hmore, hsame]
    exact .inr ⟨message, stopped⟩

/-- Without a guard a run never ends exactly if the guard that forgets refuses it. -/
theorem unfinished_iff (schema value : Json) (given : Given) (heard : List Notice) :
    (∀ steps : Options → Nat,
      Unfinished ((validateWith .unguarded steps schema value given).on heard).1) ↔
    Circular ((validateWith .steady (enough schema value) schema value given).on heard).1 ∨
      ∃ message, ((validateWith .steady (enough schema value) schema value given).on heard).1 =
        .error (.stopped message) := by
  constructor
  · intro unfinished
    by_cases hgood : Avoids Fault.OfRun
        ((validateWith .steady (enough schema value) schema value given).on heard).1
    · have hsame := validateWith_agrees Guard.steady_simulates trivial Scope.Alike.refl
        (fun _ => Nat.le_refl _) hgood
      rcases unfinished (enough schema value) with hexhausted | hstopped
      · rw [hsame] at hexhausted
        exact absurd hexhausted (validateWith_steady_ends schema value given heard)
      · rw [hsame] at hstopped
        exact .inr hstopped
    · have hbad : ∃ f, ((validateWith .steady (enough schema value) schema value given).on
          heard).1 = .error f ∧ f.OfRun := by
        by_contra hnone
        exact hgood fun f hf hrun => hnone ⟨f, hf, hrun⟩
      obtain ⟨f, hf, hrun⟩ := hbad
      left
      unfold Fault.OfRun at hrun
      split at hrun
      · exact absurd hf (validateWith_steady_ends schema value given heard)
      · exact ⟨_, _, hf⟩
      · exact hrun.elim
  · rintro (circular | ⟨message, stopped⟩) steps
    · exact unfinished_of_circular circular steps
    · exact unfinished_of_stopped stopped steps

/-- That a refused reference could have been followed forever holds exactly where the run is
refused as well, or stopped by its hook, by the guard that forgets what has been followed
whenever a name is bound: some reference is followed again at one place with the same
definitions in force. -/
theorem refused_forever_iff (schema value : Json) (given : Given) (heard : List Notice) :
    (Circular ((validate schema value given).on heard).1 →
      ∀ steps : Options → Nat,
        Unfinished ((validateWith .unguarded steps schema value given).on heard).1) ↔
    (Circular ((validate schema value given).on heard).1 →
      Circular ((validateWith .steady (enough schema value) schema value given).on heard).1 ∨
      ∃ message, ((validateWith .steady (enough schema value) schema value given).on heard).1 =
        .error (.stopped message)) := by
  rw [unfinished_iff]

/-- A schema whose reference is followed again below a definition that makes a difference. -/
def Circular.reopened : Json :=
  .obj [
    ("definitions", .obj [("T", .obj [("anyOf", .arr [
      .obj [("$ref", .str "B")],
      .obj [("definitions", .obj [("B", .obj [])]), ("$ref", .str "T")]])])]),
    ("$ref", .str "T")]

/-- It is refused as circular, and yet without a guard every value is found to meet it. -/
theorem reopened_refused_and_finished :
    Circular ((validate Circular.reopened (.int 1) .absent).on []).1 ∧
      ((validateWith .unguarded (enough Circular.reopened (.int 1)) Circular.reopened (.int 1)
        .absent).on []).1 = .ok [] := by
  constructor
  · exact ⟨["T", "T"], some "", by rfl⟩
  · rfl

end JsonSchema
