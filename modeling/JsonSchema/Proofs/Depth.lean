import JsonSchema.Proofs.Location
import JsonSchema.Proofs.Reach
import JsonSchema.Proofs.Termination
import JsonSchema.Proofs.Visits

/-! The limit on nesting. A validation hits it at a part of the value that lies one step deeper
than the limit, however many references and branches lead there; and where it is not hit, a
higher one makes no difference. -/
namespace JsonSchema

/-- The fault of a value that is nested too deeply. -/
def Fault.Deep : Fault → Prop
  | .refused (.depth _) _ => True
  | _ => False

/-- Options that can be read leave little that a validation can be refused for at once. -/
theorem opening?_not_deep {schema : Json} {given : Given} {options : Options} {f : Fault}
    (hoptions : given.options = .ok options) (h : opening? schema given = .error f) : ¬ f.Deep := by
  cases schema with
  | obj members =>
    cases members with
    | nil =>
      rw [opening?_nil hoptions] at h
      cases h
    | cons member rest =>
      rw [opening?_of_ne_nil hoptions (List.cons_ne_nil member rest)] at h
      split at h <;> cases h
      exact id
  | null => cases h
  | _ =>
    cases h
    exact id

namespace State

/-- The value of a state stands at its path, and so many parts of it lie below. The path goes
beyond the limit by one step at most, and not at all once the node is opened. -/
structure Nested (whole : Json) (limit : Nat) (state : State) : Prop where
  maxDepth : state.scope.options.maxDepth = .int limit
  height : state.path.length + state.value.height ≤ whole.height
  found : whole.isProper → state.value.isProper ∧ whole.at? state.path = some state.value
  depth : state.path.length ≤ limit + 1
  opened : ∀ plan, state.task = .plan plan → state.path.length ≤ limit

variable {whole : Json} {limit : Nat} {state after : State}

theorem Nested.next (nested : state.Nested whole limit) (keeps : state.KeepsTo)
    (next : state.Next after) : after.Nested whole limit := by
  obtain ⟨hlimit, hheight, hfound, hdepth, hopened⟩ := nested
  cases next with
  | opens hshallow =>
    refine ⟨hlimit, hheight, hfound, hdepth, fun _ _ => ?_⟩
    dsimp only at hlimit
    rw [hlimit] at hshallow
    simpa [Options.exceeds] using hshallow
  | first | second | branch | after =>
    exact ⟨hlimit, hheight, hfound, hdepth, fun _ _ => hopened _ rfl⟩
  | @enter _ scope schema node value part path place =>
    change Check.Leads scope.options schema value path node part place at keeps
    cases keeps with
    | here => exact ⟨hlimit, hheight, hfound, hdepth, fun _ h => nomatch h⟩
    | part step _ hpart =>
      have hlower := hpart.height_lt
      have hpath := hopened _ rfl
      refine ⟨hlimit, ?_, fun proper => ?_, ?_, fun _ h => nomatch h⟩
      · change path.length + value.height ≤ whole.height at hheight
        change (path ++ [step]).length + part.height ≤ whole.height
        rw [List.length_append, List.length_singleton]
        omega
      · obtain ⟨hproper, hat⟩ := hfound proper
        exact ⟨hpart.isProper hproper, Check.Within.at? (.part hpart) hproper hat⟩
      · rw [List.length_append, List.length_singleton]
        exact Nat.succ_le_succ hpath
  | @follow _ scope inner schema value part path link hfollow =>
    change Check.Refers scope.options scope.root schema value path link part at keeps
    obtain ⟨_, rfl⟩ := Scope.follow_ok hfollow
    cases keeps
    exact ⟨hlimit, hheight, hfound, hdepth, fun _ h => nomatch h⟩

theorem nested_of_reaches {schema value : Json} {options : Options}
    (hlimit : options.maxDepth = .int limit)
    (reaches : (root schema value options).Reaches state) : state.Nested value limit := by
  induction reaches with
  | refl =>
    exact ⟨hlimit, Nat.le_of_eq (Nat.zero_add _), fun proper => ⟨proper, rfl⟩, Nat.zero_le _,
      fun _ h => nomatch h⟩
  | tail reaches next ih => exact ih.next (keepsTo_of_reaches reaches) next

/-- The limit is hit one step beyond it. -/
theorem Nested.length_of_raises {refused : Json} {context : Option String}
    (nested : state.Nested whole limit) (keeps : state.KeepsTo)
    (raises : state.Raises (.refused (.depth refused) context)) :
    refused = .int limit ∧ state.path.length = limit + 1 ∧ context = some state.path.text := by
  cases raises with
  | @deep budget scope schema value path hdeep =>
    have hlimit : scope.options.maxDepth = .int limit := nested.maxDepth
    rw [hlimit] at hdeep
    have hbeyond : limit < path.length := by simpa [Options.exceeds] using hdeep
    exact ⟨hlimit, Nat.le_antisymm nested.depth hbeyond, rfl⟩
  | @fault budget scope schema value path =>
    change Check.Fails scope.options scope.root schema value _ at keeps
    cases keeps
  | follow hfollow =>
    unfold Scope.follow at hfollow
    split at hfollow <;> cases hfollow

end State

/-- What is too deep for a validation lies in a state of its run, one step beyond the limit. -/
theorem nested_of_validate {schema value : Json} {given : Given} {options : Options} {limit : Nat}
    {heard : List Notice} {refused : Json} {context : Option String}
    (hoptions : given.options = .ok options) (hlimit : options.maxDepth = .int limit)
    (h : ((validate schema value given).on heard).1 = .error (.refused (.depth refused) context)) :
    ∃ state : State, state.Nested value limit ∧ refused = .int limit ∧
      state.path.length = limit + 1 ∧ context = some state.path.text := by
  rcases State.raised_of_validate h (fun message => nofun) with
    hopening | ⟨opened, state, hopening, reaches, raises⟩
  · exact absurd trivial (opening?_not_deep hoptions hopening)
  · obtain ⟨same, hsame, rfl⟩ := opening?_some hopening
    rw [hoptions] at hsame
    cases hsame
    have hopened : (options.withDefinitions (Check.declared (.document .schema schema))).maxDepth =
      .int limit := hlimit
    have nested := State.nested_of_reaches hopened reaches
    exact ⟨state, nested, nested.length_of_raises (State.keepsTo_of_reaches reaches) raises⟩

/-- The same options with another limit on nesting. -/
def Options.allowing (options : Options) (limit : Nat) : Options :=
  { options with maxDepth := .int limit }

/-- Scopes of which the first has a limit on nesting and the second another one. -/
structure Scope.Loosened (limit higher : Nat) (scope scope' : Scope) : Prop where
  maxDepth : scope.options.maxDepth = .int limit
  eq : scope' = { scope with options := scope.options.allowing higher }

namespace Check

variable {limit higher : Nat}

theorem loosened_accompanies (bad : Fault → Prop) :
    Guard.chain.Accompanies bad (Scope.Loosened limit higher) Guard.chain where
  hook like := by rw [like.eq]; rfl
  trials like := by rw [like.eq]
  trial like := ⟨like.maxDepth, congrArg Scope.trial like.eq⟩
  refuse like h := by
    right
    rw [like.eq]
    change Scope.follow _ _ = _ at h ⊢
    unfold Scope.follow at h ⊢
    split at h <;> cases h
    rename_i hany
    rw [if_pos hany]
  follow like h := by
    obtain ⟨hfresh, rfl⟩ := Scope.follow_ok h
    refine ⟨_, ?_, like.maxDepth, rfl⟩
    rw [like.eq]
    change Scope.follow _ _ = _
    unfold Scope.follow
    rw [if_neg (by simpa using hfresh)]

/-- By induction on the budget: what is not beyond a limit is not beyond a higher one, and nothing
but the length of the path is ever compared with it. -/
theorem descend_loosened (le : limit ≤ higher) (budget : Nat) :
    Descent.Agrees Fault.Deep (Scope.Loosened limit higher) (descend .chain budget)
      (descend .chain budget) := by
  induction budget with
  | zero => intro scope scope' _ schema value path heard _; rfl
  | succ budget ih =>
    intro scope scope' like schema value path heard good
    obtain ⟨hlimit, rfl⟩ := like
    by_cases hdeep : limit < path.length
    · have hexceeds : Options.exceeds path.length scope.options.maxDepth = some true := by
        simp [Options.exceeds, hlimit, hdeep]
      rw [descend, hexceeds] at good
      exact absurd trivial (good _ rfl)
    · have hless : ¬ higher < path.length := by omega
      have hexceeds : Options.exceeds path.length scope.options.maxDepth = some false := by
        simp [Options.exceeds, hlimit, hdeep]
      have hexceeds' : Options.exceeds path.length (scope.options.allowing higher).maxDepth =
          some false := by
        simp [Options.exceeds, Options.allowing, hless]
      rw [descend_within hexceeds] at good ⊢
      rw [descend_within hexceeds']
      let inner := scope.withDefinitions (declared schema)
      have hinner : Scope.Loosened limit higher inner
        { inner with options := inner.options.allowing higher } := ⟨hlimit, rfl⟩
      exact Plan.run_agrees (loosened_accompanies _) ih
        (node inner.options inner.root schema value path) hinner heard good

end Check

/-- Another limit on nesting makes no difference to how a validation starts. -/
theorem opening?_allowing {given given' : Given} {options : Options} {limit : Nat}
    (hoptions : given.options = .ok options)
    (hoptions' : given'.options = .ok (options.allowing limit)) (schema : Json) :
    opening? schema given' = (opening? schema given).map (·.map (·.allowing limit)) := by
  cases schema with
  | obj members =>
    cases members with
    | nil => rw [opening?_nil hoptions, opening?_nil hoptions']; rfl
    | cons member rest =>
      rw [opening?_of_ne_nil hoptions (List.cons_ne_nil member rest),
        opening?_of_ne_nil hoptions' (List.cons_ne_nil member rest)]
      split <;> rfl
  | _ => rfl

/-- A validation that is not too deep for its limit is the same with any higher one. -/
theorem validate_loosened {schema value : Json} {given given' : Given} {options : Options}
    {limit higher : Nat} {heard : List Notice} (hoptions : given.options = .ok options)
    (hlimit : options.maxDepth = .int limit) (le : limit ≤ higher)
    (hoptions' : given'.options = .ok (options.allowing higher))
    (shallow : Avoids Fault.Deep ((validate schema value given).on heard).1) :
    (validate schema value given').on heard = (validate schema value given).on heard := by
  unfold validate validateWith at shallow ⊢
  rw [opening?_allowing hoptions hoptions']
  rcases hopening : opening? schema given with f | _ | opened
  · rfl
  · rfl
  · rw [hopening] at shallow
    obtain ⟨same, hsame, rfl⟩ := opening?_some hopening
    rw [hoptions] at hsame
    cases hsame
    exact Check.descend_loosened le _ _ _ ⟨hlimit, rfl⟩ _ _ _ heard shallow

/-- Where the deepest part of a value is within the limit, no validation ends because the value
is nested too deeply. One that does, does so at a part of the value that lies one step beyond the
limit. Any other validation is the same with every higher limit, also in what its hook hears. -/
theorem validate_depth {schema value : Json} {given : Given} {options : Options} {limit : Nat}
    (hoptions : given.options = .ok options) (hlimit : options.maxDepth = .int limit)
    (heard : List Notice) :
    let result := (validate schema value given).on heard
    (value.height ≤ limit → Avoids Fault.Deep result.1) ∧
    (∀ refused context, result.1 = .error (.refused (.depth refused) context) →
      value.isProper → refused = .int limit ∧ ∃ place part, value.at? place = some part ∧
        place.length = limit + 1 ∧ context = some place.text) ∧
    (Avoids Fault.Deep result.1 → ∀ higher given', limit ≤ higher →
      given'.options = .ok { options with maxDepth := .int higher } →
        (validate schema value given').on heard = result) := by
  refine ⟨fun within f hf deep => ?_, fun refused context hrefused proper => ?_,
    fun shallow higher given' le hoptions' =>
      validate_loosened hoptions hlimit le hoptions' shallow⟩
  · unfold Fault.Deep at deep
    split at deep
    · obtain ⟨state, nested, _, hlength, _⟩ := nested_of_validate hoptions hlimit hf
      have hheight := nested.height
      omega
    · exact deep
  · obtain ⟨state, nested, hlimited, hlength, hcontext⟩ :=
      nested_of_validate hoptions hlimit hrefused
    exact ⟨hlimited, state.path, state.value, (nested.found proper).2, hlength, hcontext⟩

theorem validate_depth_recursive :
    let schema := Json.obj [("definitions", .obj [("T", .obj [("anyOf", .arr [
        .obj [("type", .str "integer")], .obj [("items", .obj [("$ref", .str "T")])]])])]),
      ("$ref", .str "T")]
    let value := Json.arr [.arr [.int 1, .null]]
    let given (limit : Nat) := Given.built { Options.standard with maxDepth := .int limit }
    let result (limit : Nat) := (validate schema value (given limit)).on []
    (result 1).1 = .error (.refused (.depth (.int 1)) (some "[0][0]")) ∧
      (∃ place part, value.at? place = some part ∧ place.length = 2 ∧
        some "[0][0]" = some (Path.text place)) ∧
      Check.kindsOf (result 2).1 = [.anyOf] ∧ Avoids Fault.Deep (result 2).1 ∧
      result 100 = result 2 := by
  intro schema value given result
  have hdeep : (result 1).1 = .error (.refused (.depth (.int 1)) (some "[0][0]")) := by rfl
  have hone : (given 1).options = .ok { Options.standard with maxDepth := .int 1 } := rfl
  have htwo : (given 2).options = .ok { Options.standard with maxDepth := .int 2 } := rfl
  obtain ⟨_, hplace, _⟩ := @validate_depth schema value _ _ 1 hone rfl []
  obtain ⟨hshallow, _, hhigher⟩ := @validate_depth schema value _ _ 2 htwo rfl []
  have hwithin : Avoids Fault.Deep (result 2).1 := hshallow (by decide)
  refine ⟨hdeep, (hplace _ _ hdeep (by decide)).2, by rfl, hwithin, ?_⟩
  exact hhigher hwithin 100 (given 100) (by decide) rfl

end JsonSchema
