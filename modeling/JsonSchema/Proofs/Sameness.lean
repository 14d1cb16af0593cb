import JsonSchema.Proofs.Constraint
import JsonSchema.Proofs.Equality
import JsonSchema.Proofs.Location
import JsonSchema.Proofs.Typed

/-! Where values are compared with each other, they are compared for structural equality: a
list of allowed values accepts what is equal to one of them, and an array of unique items
none of which two are equal. -/
namespace JsonSchema

namespace Check

theorem member?_of_value {schema : Node} {name : String} {json : Json}
    (h : schema.value name = json) (present : json ≠ .null) :
    ∃ child, schema.member? name = some child ∧ child.json = json := by
  unfold Node.value at h
  unfold Node.member?
  split at h
  · rename_i members hjson
    cases hlookup : members.lookup name with
    | none =>
      rw [hlookup] at h
      exact absurd h.symm present
    | some found =>
      rw [hlookup] at h
      exact ⟨_, rfl, h⟩
  · exact absurd h.symm present

theorem on_descend_admitted (guard : Guard) (budget : Nat) {scope : Scope} {schema : Node}
    {value : Json} {path : Path}
    (admitted : Options.exceeds path.length scope.options.maxDepth = some false)
    (heard : List Notice) :
    (descend guard (budget + 1) scope schema value path).on heard =
      ((node (guard.declare scope (declared schema)).options
          (guard.declare scope (declared schema)).root schema value path).run guard
        (descend guard budget) (guard.declare scope (declared schema))).on heard := by
  rw [descend, admitted]

theorem report_ok {scope : Scope} {schema : Node} {value : Json} {path : Path} {finding : Finding}
    {heard after : List Notice} {violations : List Violation}
    (h : (scope.report schema value path finding).on heard = (.ok violations, after)) :
    violations = [finding.violation path] := by
  rw [Scope.report, on_bind] at h
  rcases hnotify : (scope.notify ((finding.violation path).notice schema.json value)).on heard with
    ⟨f | _, later⟩ <;> rw [hnotify] at h <;> cases h
  rfl

/-- A list of allowed values accepts exactly what is equal to one of them. -/
theorem descend_enum_iff (guard : Guard) (budget : Nat) {scope : Scope} {schema : Node}
    {value : Json} {path : Path} {allowed : List Json}
    (admitted : Options.exceeds path.length scope.options.maxDepth = some false)
    (governs : schema.value "enum" = .arr allowed)
    (proper : ∀ one ∈ allowed, one.isProper) (proper' : value.isProper) (heard : List Notice) :
    ((descend guard (budget + 1) scope schema value path).on heard).1 = .ok [] ↔
      ∃ one ∈ allowed, one.Equal value := by
  obtain ⟨child, hchild, hjson⟩ := member?_of_value governs nofun
  have hsame : allowed.any (·.same value) = true ↔ ∃ one ∈ allowed, one.Equal value := by
    simp only [List.any_eq_true]
    exact exists_congr fun one =>
      and_congr_right fun hmem => Json.same_iff (proper one hmem) proper'
  obtain ⟨members, hmembers⟩ := obj_of_member? hchild
  rw [on_descend_admitted guard budget admitted, node_of_obj hmembers, governing, hchild, ← hsame]
  dsimp only
  rw [enumeration, hjson]
  dsimp only
  split
  · rename_i hany
    simp [hany, Plan.run]
  · rename_i hany
    refine iff_of_false (fun hok => ?_) hany
    have hreport := report_ok (Prod.ext hok rfl)
    cases hreport

/-- Every violation of an answer is about the value or something in it. -/
theorem answer_extends {guard : Guard} {budget : Nat} {scope : Scope} {schema : Node}
    {value : Json} {path : Path} {violations : List Violation}
    (h : answer guard budget scope schema value path = .ok violations) :
    ∀ violation ∈ violations, path <+: violation.path := by
  induction budget generalizing scope schema value path violations with
  | zero => cases h
  | succ budget ih =>
    intro violation hmem
    rw [answer] at h
    split at h
    · cases h
    · cases h
    · have hplace : ∀ {part place}, Within value path part place → path <+: place := by
        intro part place hwithin
        cases hwithin with
        | here => exact List.prefix_rfl
        | part _ => exact List.prefix_append path _
      rcases Plan.mem_answer node_placed h hmem with
        ⟨place, finding, hreports, rfl⟩ | ⟨part, place, hwithin, _, _, _, hbelow, hmem⟩
      · cases hreports with
        | wrong hwithin _ => exact (hplace hwithin).trans (List.prefix_append place _)
        | missing _ _ _ _ => exact List.prefix_append path _
      · exact (hplace hwithin).trans (ih hbelow violation hmem)

/-- The plan for the items of an array keeps to what is one step below it. -/
abbrev KeepsBelow (path : Path) (plan : Plan) : Prop :=
  plan.Throughout (fun place _ => ∃ step, place = path ++ [step])
    (fun _ place => ∃ step, place = path ++ [step])

theorem additionalItem_below (schema additional : Node) (i : Nat) (item : Json) (path : Path) :
    KeepsBelow path (additionalItem schema additional i item (path.index i)) := by
  unfold additionalItem
  split
  · trivial
  · trivial
  · exact ⟨_, rfl⟩
  · have hlast : KeepsBelow path (.report schema item (path.index i)
        { kind := .itemNotValid, details := [("index", .int i)] }) := ⟨_, rfl⟩
    exact Plan.throughout_firstClean hlast _
  · exact ⟨_, rfl⟩

theorem items_below (options : Options) (schema : Node) (elements : List Json) (path : Path) :
    KeepsBelow path (items options schema elements path) := by
  have htuple : ∀ additional tuple,
      KeepsBelow path (tupleItems schema additional tuple elements path) := by
    intro additional tuple
    refine Plan.throughout_all fun plan hplan => ?_
    obtain ⟨⟨i, item⟩, _, rfl⟩ := List.mem_map.mp hplan
    dsimp only [tupleItem]
    split
    · exact ⟨_, rfl⟩
    · exact additionalItem_below schema additional i item path
  unfold items
  dsimp only
  split
  · split
    · exact htuple _ _
    · trivial
  · split
    · exact htuple _ _
    · refine Plan.throughout_all fun plan hplan => ?_
      obtain ⟨⟨i, item⟩, _, rfl⟩ := List.mem_map.mp hplan
      exact ⟨_, rfl⟩

/-- Two positions of an array that hold equal items. -/
def HasEqualItems (elements : List Json) : Prop :=
  ∃ (i j : Nat) (a b : Json), i < j ∧ elements[i]? = some a ∧ elements[j]? = some b ∧ a.Equal b

theorem uniqueItems_eq_none_iff {schema : Node} {elements : List Json}
    (unique : (schema.value "uniqueItems").isTrue) (proper : (Json.arr elements).isProper) :
    uniqueItems schema elements = none ↔ ¬ HasEqualItems elements := by
  have hproper : ∀ {i : Nat} {item : Json}, elements[i]? = some item → item.isProper := by
    intro i item hitem
    exact (Json.areProperItems_iff elements).mp proper item (List.mem_of_getElem? hitem)
  rw [uniqueItems_iff, imp_iff_right unique, List.pairwise_iff_getElem]
  constructor
  · rintro hpairwise ⟨i, j, a, b, hless, ha, hb, hequal⟩
    obtain ⟨hi, rfl⟩ := List.getElem?_eq_some_iff.mp ha
    obtain ⟨hj, rfl⟩ := List.getElem?_eq_some_iff.mp hb
    exact hpairwise i j hi hj hless ((Json.same_iff (hproper ha) (hproper hb)).mpr hequal)
  · intro hnone i j hi hj hless hsame
    have ha := List.getElem?_eq_getElem hi
    have hb := List.getElem?_eq_getElem hj
    exact hnone ⟨i, j, _, _, hless, ha, hb, (Json.same_iff (hproper ha) (hproper hb)).mp hsame⟩

/-- The node is checked by what its type, a declared one or the one told by its shape,
says about arrays. -/
structure ChecksArray (schema : Node) : Prop where
  noEnum : schema.member? "enum" = none
  noOneOf : schema.member? "oneOf" = none
  noAllOf : schema.member? "allOf" = none
  noAnyOf : schema.member? "anyOf" = none
  noRef : schema.member? "$ref" = none
  type : ∃ type, governingType? schema = some type ∧ namedType? type.json = some .array

theorem ChecksArray.solely {schema : Node} (checks : ChecksArray schema) :
    Solely schema .array where
  plain := by
    simp only [combinators, List.forall_mem_cons]
    exact ⟨checks.noRef, checks.noEnum, checks.noOneOf, checks.noAllOf, checks.noAnyOf,
      fun _ hmem => absurd hmem List.not_mem_nil⟩
  type := checks.type

theorem ChecksArray.node_eq {schema : Node} (checks : ChecksArray schema) (options : Options)
    (root : Node) (elements : List Json) (path : Path) :
    node options root schema (.arr elements) path =
      array options schema (.arr elements) elements path :=
  checks.solely.node_eq options root (.arr elements) path

/-- The violations that say that items at a path are not unique. -/
def repeatsAt (path : Path) (violations : List Violation) : List Violation :=
  violations.filter fun violation => violation.kind = .uniqueItems ∧ violation.path = path

theorem repeatsAt_settle (schema : Node) (elements : List Json) (path : Path) :
    repeatsAt path ([limitFinding .minItems (schema.value "minItems")
        (tooFew elements.length (schema.value "minItems")),
      limitFinding .maxItems (schema.value "maxItems")
        (tooMany elements.length (schema.value "maxItems")),
      uniqueItems schema elements].flatMap fun found => (found.map (·.violation path)).toList) =
      ((uniqueItems schema elements).map (·.violation path)).toList := by
  have hlimit : ∀ kind limit broken finding, limitFinding kind limit broken = some finding →
      finding.kind = kind := by
    intro kind limit broken finding h
    unfold limitFinding at h
    split at h <;> cases h
    rfl
  have hquiet : ∀ (kind : Kind) (limit : Json) (broken : Bool), kind ≠ .uniqueItems →
      repeatsAt path ((limitFinding kind limit broken).map (·.violation path)).toList = [] := by
    intro kind limit broken hkind
    cases hfinding : limitFinding kind limit broken with
    | none => rfl
    | some finding =>
      have hother : (finding.violation path).kind ≠ .uniqueItems := by
        rw [← hlimit kind limit broken finding hfinding] at hkind
        exact hkind
      simp [repeatsAt, hother]
  have hunique : repeatsAt path ((uniqueItems schema elements).map (·.violation path)).toList =
      ((uniqueItems schema elements).map (·.violation path)).toList := by
    unfold uniqueItems
    split
    · simp [repeatsAt, Finding.violation, Violation.of]
    · rfl
  have happend : ∀ here there : List Violation,
      repeatsAt path (here ++ there) = repeatsAt path here ++ repeatsAt path there := by
    simp [repeatsAt]
  rw [List.flatMap_cons, List.flatMap_cons, List.flatMap_singleton, happend, happend,
    hquiet .minItems _ _ nofun, hquiet .maxItems _ _ nofun, hunique]
  rfl

/-- What is found below an array is not about its own items. -/
theorem repeatsAt_below {guard : Guard} {budget : Nat} {scope : Scope} {plan : Plan} {path : Path}
    {violations : List Violation} (below : KeepsBelow path plan)
    (h : plan.answer guard (answer guard budget) scope = .ok violations) :
    repeatsAt path violations = [] := by
  have hstrict : ∀ {step : Step}, ¬ path ++ [step] <+: path := by
    intro step hprefix
    have := hprefix.length_le
    simp at this
  refine List.filter_eq_nil_iff.mpr fun violation hmem hrepeats => ?_
  have hpath : violation.path = path := by simp_all
  rcases Plan.mem_answer below h hmem with
    ⟨_, finding, ⟨step, rfl⟩, rfl⟩ | ⟨part, _, ⟨step, rfl⟩, _, _, _, hfound, hmem⟩
  · have hextends : path ++ [step] <+: (finding.violation (path ++ [step])).path :=
      List.prefix_append _ finding.below
    rw [hpath] at hextends
    exact hstrict hextends
  · have hextends := answer_extends hfound violation hmem
    rw [hpath] at hextends
    exact hstrict hextends

/-- At an array of unique items there is one violation of that if two positions hold equal
items, and none otherwise. -/
theorem descend_uniqueItems {budget : Nat} {scope : Scope} {schema : Node} {elements : List Json}
    {path : Path} (checks : ChecksArray schema) (unique : (schema.value "uniqueItems").isTrue)
    (proper : (Json.arr elements).isProper) {heard after : List Notice}
    {violations : List Violation}
    (returns : (descend .chain budget scope schema (.arr elements) path).on heard =
      (.ok violations, after)) :
    (HasEqualItems elements → (repeatsAt path violations).length = 1) ∧
      (¬ HasEqualItems elements → repeatsAt path violations = []) := by
  obtain ⟨told, htold⟩ := descend_tells Guard.chain_ignoresHook budget scope scope.trials schema
    (.arr elements) path
  have hanswer := hearing_ok ((htold.on_eq scope.options.hook heard).symm.trans returns)
  have hrepeats : repeatsAt path violations =
      ((uniqueItems schema elements).map (·.violation path)).toList := by
    cases budget with
    | zero => cases hanswer
    | succ budget =>
      rw [answer] at hanswer
      split at hanswer
      · cases hanswer
      · cases hanswer
      · dsimp only at hanswer
        rw [checks.node_eq] at hanswer
        obtain ⟨here, there, hhere, hthere, rfl⟩ := Plan.answer_both_ok hanswer
        have hsettled := hhere.symm.trans (answer_settle schema (.arr elements) path
          [limitFinding .minItems (schema.value "minItems")
            (tooFew elements.length (schema.value "minItems")),
          limitFinding .maxItems (schema.value "maxItems")
            (tooMany elements.length (schema.value "maxItems")),
          uniqueItems schema elements])
        rw [← repeatsAt_settle schema elements path, ← Except.ok.inj hsettled]
        have hbelow := repeatsAt_below (items_below _ schema elements path) hthere
        rw [repeatsAt, List.filter_append]
        exact (congrArg (repeatsAt path here ++ ·) hbelow).trans (List.append_nil _)
  have hnone := uniqueItems_eq_none_iff unique proper
  rw [hrepeats]
  cases hunique : uniqueItems schema elements <;> simp_all

end Check

end JsonSchema
