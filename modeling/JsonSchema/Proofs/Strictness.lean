import JsonSchema.Proofs.Applied
import JsonSchema.Proofs.Location
import JsonSchema.Proofs.Tightening

/-! Stricter options hide nothing, unless fewer of several schemas match of which one should:
where more than one did, just one may be left. -/
namespace JsonSchema

namespace Options

theorem size_under {options strict : Options} (toggles : options.Toggles strict) :
    (options.under strict).size = options.size := by
  have hsize {loose strict : Node} (h : loose.Toggles strict) :
      strict.json.size = loose.json.size := by
    rcases h with rfl | ⟨hloose, hstrict⟩
    · rfl
    · rw [hloose, hstrict]
      rfl
  change strict.additionalProperties.json.size + strict.additionalItems.json.size
    + options.definitions.size = _
  rw [hsize toggles.properties, hsize toggles.items]
  rfl

end Options

section

variable {schema value : Json} {loose strict : Given} {looseOptions strictOptions : Options}

theorem opening?_under (hloose : loose.options = .ok looseOptions)
    (hstrict : strict.options = .ok strictOptions) (tightens : looseOptions.Tightens strictOptions)
    {opened : Options} (h : opening? schema loose = .ok (some opened)) :
    opened.Toggles strictOptions ∧
      opening? schema strict = .ok (some (opened.under strictOptions)) := by
  cases schema with
  | obj members =>
    unfold opening? at h ⊢
    rw [hloose] at h
    rw [hstrict]
    cases members with
    | nil => cases h
    | cons head rest =>
      cases hextra : rootDefinitions? (.document .schema (.obj (head :: rest))) with
      | error f =>
        simp only [hextra] at h
        cases h
      | ok extra =>
        simp only [hextra] at h
        cases h
        refine ⟨⟨tightens.toggles.properties, tightens.toggles.items⟩, ?_⟩
        exact congrArg (fun options => Except.ok (some (Options.withDefinitions options extra)))
          tightens.same
  | _ => cases h

theorem answerWith_tightens (hloose : loose.options = .ok looseOptions)
    (hstrict : strict.options = .ok strictOptions) (tightens : looseOptions.Tightens strictOptions)
    (steady : ∀ visit ∈ visited schema value loose, visit.Steady strictOptions)
    {violations violations' : List Violation}
    (h : answerWith .chain (enough schema value) schema value loose = .ok violations)
    (h' : answerWith .chain (enough schema value) schema value strict = .ok violations') :
    violations.Sublist violations' := by
  unfold answerWith at h h'
  unfold visited at steady
  rcases hopening : opening? schema loose with f | _ | opened
  · rw [hopening] at h
    cases h
  · rw [hopening] at h
    cases h
    exact List.nil_sublist _
  · obtain ⟨toggles, hopening'⟩ := opening?_under hloose hstrict tightens hopening
    rw [hopening] at h steady
    rw [hopening'] at h'
    have hbudget : enough schema value (opened.under strictOptions) =
        enough schema value opened := by
      rw [enough, Options.size_under toggles, ← enough]
    dsimp only at steady
    change Check.answer .chain (enough schema value (opened.under strictOptions)) _ _ _ _ = _
      at h'
    rw [hbudget] at h'
    exact Check.answer_tightens strictOptions _ false _ _ _ _ _ _ toggles steady h h'

/-- With stricter options every violation is still found if, wherever a value matches more
than one of several schemas of which it should match one, it matches just as many with the
stricter options, or, in a branch that is only tried out, not one alone. So a value that is
valid with the stricter options is valid. -/
theorem validate_hides_nothing (hloose : loose.options = .ok looseOptions)
    (hstrict : strict.options = .ok strictOptions) (tightens : looseOptions.Tightens strictOptions)
    (steady : ∀ visit ∈ visited schema value loose, visit.Steady strictOptions)
    {heard heard' after after' : List Notice} {violations violations' : List Violation}
    (returns : (validate schema value loose).on heard = (.ok violations, after))
    (returns' : (validate schema value strict).on heard' = (.ok violations', after')) :
    (∀ violation ∈ violations, violation ∈ violations') ∧
      (violations' = [] → violations = []) := by
  have hsub := answerWith_tightens hloose hstrict tightens steady (answerWith_of_validate returns)
    (answerWith_of_validate returns')
  refine ⟨hsub.subset, ?_⟩
  rintro rfl
  exact List.sublist_nil.mp hsub

end

/-- Settings that say whether additional properties and additional items are free. -/
def Given.toggled (properties items : Json) : Given :=
  .settings (Options.settingsOf (.document .options
    (.obj [("additionalProperties", properties), ("additionalItems", items)])))

theorem validate_hides_nothing_plural :
    let schema := Json.obj [("properties", .obj [
      ("x", .obj [("oneOf", .arr [.obj [], .obj [("type", .str "integer")]])])])]
    let value := Json.obj [("x", .int 1), ("y", .int 2)]
    let loose := Given.toggled (.bool true) (.bool true)
    let strict := Given.toggled (.bool false) (.bool true)
    ∃ violations violations', (validate schema value loose).on [] = (.ok violations, []) ∧
      (validate schema value strict).on [] = (.ok violations', []) ∧
      violations.map (·.kind) = [.oneOf] ∧
      violations'.map (·.kind) = [.oneOf, .additionalProperties] ∧
      ∀ violation ∈ violations, violation ∈ violations' := by
  intro schema value loose strict
  have returns : (validate schema value loose).on [] = (.ok _, []) := rfl
  have returns' : (validate schema value strict).on [] = (.ok _, []) := rfl
  have hloose : loose.options = .ok _ := rfl
  have hstrict : strict.options = .ok _ := rfl
  refine ⟨_, _, returns, returns', rfl, rfl, ?_⟩
  exact (validate_hides_nothing hloose hstrict ⟨⟨.inr ⟨rfl, rfl⟩, .inl rfl⟩, rfl⟩
    (by decide +kernel) returns returns').1

/-- Of two schemas that match where one should, the stricter options leave one. -/
theorem stricter_options_leave_one :
    let schema := Json.obj [("oneOf", .arr [.obj [("properties", .obj [("a", .obj [])])],
      .obj [("properties", .obj [("b", .obj [])])]])]
    let value := Json.obj [("a", .int 1)]
    let loose := Given.toggled (.bool true) (.bool true)
    let strict := Given.toggled (.bool false) (.bool true)
    (∃ looseOptions strictOptions, loose.options = .ok looseOptions ∧
      strict.options = .ok strictOptions ∧ looseOptions.Tightens strictOptions) ∧
    (∃ violation, (validate schema value loose).on [] = (.ok [violation], []) ∧
      violation.kind = .oneOf) ∧
    (validate schema value strict).on [] = (.ok [], []) :=
  ⟨⟨_, _, rfl, rfl, ⟨.inr ⟨rfl, rfl⟩, .inl rfl⟩, rfl⟩, ⟨_, rfl, rfl⟩, rfl⟩

section

variable {schema value : Json} {loose strict : Given} {looseOptions strictOptions : Options}

/-- Where no schema that is applied asks for one of several, what is found is found with
stricter options as well, in the same order. -/
theorem validate_sublist_of_no_oneOf (hloose : loose.options = .ok looseOptions)
    (hstrict : strict.options = .ok strictOptions) (tightens : looseOptions.Tightens strictOptions)
    (absent : ∀ node, loose.Applies schema node → node.member? "oneOf" = none)
    {heard heard' after after' : List Notice} {violations violations' : List Violation}
    (returns : (validate schema value loose).on heard = (.ok violations, after))
    (returns' : (validate schema value strict).on heard' = (.ok violations', after')) :
    violations.Sublist violations' := by
  apply answerWith_tightens hloose hstrict tightens _ (answerWith_of_validate returns)
    (answerWith_of_validate returns')
  intro visit hvisit hmatching
  have hnone : Check.alternatives visit.schema = [] := by
    unfold Check.alternatives
    rw [absent visit.schema (visited_applies hvisit)]
    cases visit.schema.member? "enum" <;> rfl
  rw [Check.matching, hnone] at hmatching
  cases hmatching

end

theorem validate_sublist_of_no_oneOf_nested :
    let schema := Json.obj [("definitions", .obj [("T", .obj [("type", .str "string")])]),
      ("properties", .obj [("b", .obj [("$ref", .str "T")]), ("a", .obj [("anyOf",
        .arr [.obj [("items", .arr [.obj []])], .obj [("type", .str "null")]])])])]
    let value := Json.obj [("a", .arr [.int 1, .int 2]), ("b", .int 3), ("c", .int 4)]
    let loose := Given.toggled (.bool true) (.bool true)
    let strict := Given.toggled (.bool false) (.bool false)
    ∃ violations violations', (validate schema value loose).on [] = (.ok violations, []) ∧
      (validate schema value strict).on [] = (.ok violations', []) ∧
      violations.map (·.kind) = [.type] ∧
      violations'.map (·.kind) = [.anyOf, .type, .additionalProperties] ∧
      violations.Sublist violations' := by
  intro schema value loose strict
  have returns : (validate schema value loose).on [] = (.ok _, []) := rfl
  have returns' : (validate schema value strict).on [] = (.ok _, []) := rfl
  have hloose : loose.options = .ok _ := rfl
  have hstrict : strict.options = .ok _ := rfl
  refine ⟨_, _, returns, returns', rfl, rfl, ?_⟩
  refine validate_sublist_of_no_oneOf hloose hstrict
    ⟨⟨.inr ⟨rfl, rfl⟩, .inr ⟨rfl, rfl⟩⟩, rfl⟩ ?_ returns returns'
  rintro node ⟨opened, hopening, happlied⟩
  cases hopening
  exact happlied.member?_eq_none rfl

/-- A schema that asks for one of several may also stand in the options. -/
theorem stricter_options_leave_one_additional :
    let schema := Json.obj [("type", .str "object")]
    let value := Json.obj [("a", .arr [.int 1])]
    let properties := Json.obj [("oneOf", .arr [.obj [("items", .arr [])],
      .obj [("items", .arr [.obj []])]])]
    let loose := Given.toggled properties (.bool true)
    let strict := Given.toggled properties (.bool false)
    (∃ looseOptions strictOptions, loose.options = .ok looseOptions ∧
      strict.options = .ok strictOptions ∧ looseOptions.Tightens strictOptions ∧
      looseOptions.definitions = []) ∧
    (Node.space [.document .schema schema]).all (fun node => (node.member? "oneOf").isNone) ∧
    (∃ violation, (validate schema value loose).on [] = (.ok [violation], []) ∧
      violation.kind = .oneOf) ∧
    (validate schema value strict).on [] = (.ok [], []) :=
  ⟨⟨_, _, rfl, rfl, ⟨⟨.inl rfl, .inr ⟨rfl, rfl⟩⟩, rfl⟩, rfl⟩, rfl, ⟨_, rfl, rfl⟩, rfl⟩

end JsonSchema
