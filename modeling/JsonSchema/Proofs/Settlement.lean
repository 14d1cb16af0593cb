import Mathlib.Data.List.Forall2
import JsonSchema.Proofs.Answer
import JsonSchema.Proofs.Constraint

/-! Where the answers below are right, the plan of a node finds nothing exactly where the
meaning of the node is met. -/
namespace JsonSchema

/-- Answers below that decide whether the nodes are met. -/
def Answers.Decide (answers : Answers) : Prop :=
  ∀ scope schema value path violations, answers scope schema value path = .ok violations →
    Decides scope.root scope.options (.meets schema value) violations.isEmpty

/-- A plan that finds nothing where a condition is met and something where it is missed. -/
def Plan.Settles (answers : Answers) (scope : Scope) (plan : Plan) (condition : Condition) :
    Prop :=
  ∀ violations, plan.answer .chain answers scope = .ok violations →
    Decides scope.root scope.options condition violations.isEmpty

namespace Plan

variable {answers : Answers} {scope : Scope} {plans : List Plan} {conditions : List Condition}

theorem clean_settles {p : Prop} (holds : p) : Settles answers scope .clean (.fact p) := by
  intro violations h
  cases h
  exact .fact_true holds

theorem report_settles {p : Prop} (fails : ¬ p) (schema : Node) (value : Json) (path : Path)
    (finding : Finding) : Settles answers scope (.report schema value path finding) (.fact p) := by
  intro violations h
  cases h
  exact .fact_false fails

theorem fault_settles (f : Fault) (condition : Condition) :
    Settles answers scope (.fault f) condition := by
  intro violations h
  cases h

theorem enter_settles (decide : answers.Decide) (schema : Node) (value : Json) (path : Path) :
    Settles answers scope (.enter schema value path) (.meets schema value) := by
  intro violations h
  exact decide scope schema value path violations h

theorem follow_settles (decide : answers.Decide) (link : Link) (value : Json) :
    Settles answers scope (.follow link value) (.meets link.target value) := by
  intro violations h
  rw [answer] at h
  change (do answers (← scope.follow link) link.target value link.path) = _ at h
  unfold Scope.follow at h
  by_cases hloop : scope.chain.any (·.isSame link)
  · rw [if_pos hloop] at h
    cases h
  · rw [if_neg hloop] at h
    exact decide { scope with chain := scope.chain ++ [link] } link.target value link.path
      violations h

theorem both_settles {first rest : Plan} {condition : Condition}
    (hfirst : Settles answers scope first condition)
    (hrest : Settles answers scope rest (.all conditions)) :
    Settles answers scope (.both first rest) (.all (condition :: conditions)) := by
  intro violations h
  obtain ⟨here, there, hhere, hthere, rfl⟩ := answer_both_ok h
  have hhead := hfirst here hhere
  have htail := hrest there hthere
  cases here with
  | cons violation more => exact .all_false List.mem_cons_self hhead
  | nil =>
    rw [List.nil_append]
    generalize there.isEmpty = met at htail ⊢
    cases htail with
    | all_false hmem h => exact .all_false (List.mem_cons_of_mem _ hmem) h
    | all_true h =>
      apply Decides.all_true
      intro other hmem
      rcases List.mem_cons.mp hmem with rfl | hmem
      · exact hhead
      · exact h other hmem

theorem all_settles (each : List.Forall₂ (Settles answers scope) plans conditions) :
    Settles answers scope (.all plans) (.all conditions) := by
  induction each with
  | nil =>
    intro violations h
    cases h
    exact .all_true fun condition hmem => absurd hmem List.not_mem_nil
  | cons hplan _ ih => exact both_settles hplan ih

/-- The plans and the conditions of one list go together if those of each entry do. -/
theorem mapped_settles {α : Type} {l : List α} {plan : α → Plan} {condition : α → Condition}
    (each : ∀ a ∈ l, Settles answers scope (plan a) (condition a)) :
    List.Forall₂ (Settles answers scope) (l.map plan) (l.map condition) := by
  rw [List.forall₂_map_left_iff, List.forall₂_map_right_iff, List.forall₂_same]
  exact each

theorem firstClean_settles {otherwise : Plan}
    (hotherwise : Settles answers scope otherwise (.fact False))
    (each : List.Forall₂ (Settles answers scope) plans conditions) :
    Settles answers scope (.firstClean otherwise plans) (.any conditions) := by
  induction each with
  | nil =>
    intro violations h
    have hfalse := hotherwise violations h
    generalize violations.isEmpty = met at hfalse ⊢
    cases hfalse with
    | fact_true h => exact h.elim
    | fact_false => exact .any_false fun condition hmem => absurd hmem List.not_mem_nil
  | @cons plan condition plans conditions hplan _ ih =>
    intro violations h
    obtain ⟨found, hfound, h⟩ := answer_probe_ok h
    have hhead := hplan found hfound
    cases found with
    | nil =>
      cases h
      exact .any_true List.mem_cons_self hhead
    | cons violation more =>
      have htail := ih violations h
      generalize violations.isEmpty = met at htail ⊢
      cases htail with
      | any_true hmem h => exact .any_true (List.mem_cons_of_mem _ hmem) h
      | any_false h =>
        exact .any_false fun other hmem => by
          rcases List.mem_cons.mp hmem with rfl | hmem
          · exact hhead
          · exact h other hmem

/-- Each condition of a list is decided, and what comes next is told how many are met. -/
theorem countClean_decided {next : Nat → Plan} {violations : List Violation}
    (each : List.Forall₂ (Settles answers scope) plans conditions) (count : Nat)
    (h : (countClean next count plans).answer .chain answers scope = .ok violations) :
    ∃ decided : List (Condition × Bool), decided.map (·.1) = conditions ∧
      (∀ pair ∈ decided, Decides scope.root scope.options pair.1 pair.2) ∧
      (next (count + decided.countP (·.2))).answer .chain answers scope = .ok violations := by
  induction each generalizing count with
  | nil => exact ⟨[], rfl, fun pair hmem => absurd hmem List.not_mem_nil, h⟩
  | @cons plan condition plans conditions hplan _ ih =>
    obtain ⟨found, hfound, h⟩ := answer_probe_ok h
    obtain ⟨decided, hmap, hdecided, hnext⟩ := ih _ h
    refine ⟨(condition, found.isEmpty) :: decided, ?_, fun pair hmem => ?_, ?_⟩
    · rw [List.map_cons, hmap]
    · rcases List.mem_cons.mp hmem with rfl | hmem
      · exact hplan found hfound
      · exact hdecided pair hmem
    · cases found with
      | nil =>
        rw [List.countP_cons_of_pos rfl, ← Nat.add_assoc, Nat.add_right_comm]
        exact hnext
      | cons violation more =>
        rw [List.countP_cons_of_neg (by simp)]
        exact hnext

theorem countClean_settles (schema : Node) (value : Json) (path : Path)
    (each : List.Forall₂ (Settles answers scope) plans conditions) :
    Settles answers scope
      (.countClean (fun count => .ofVerdict schema value path (.ok (Check.oneOfVerdict count))) 0
        plans) (.one conditions) := by
  intro violations h
  obtain ⟨decided, rfl, hdecided, h⟩ := countClean_decided each 0 h
  have hmet : violations.isEmpty = (decided.countP (·.2) == 1) := by
    rw [Nat.zero_add] at h
    generalize decided.countP (·.2) = count at h ⊢
    rcases count with _ | _ | more <;> cases h <;> rfl
  rw [hmet]
  exact .one decided hdecided

/-- Constraints that come to an end have all been looked at. -/
theorem answer_settle_ok {guard : Guard} {schema : Node} {value : Json} {path : Path}
    {verdicts : List Verdict} {violations : List Violation}
    (h : (settle schema value path verdicts).answer guard answers scope = .ok violations) :
    (∀ verdict ∈ verdicts, ∃ found, verdict = .ok found) ∧
      (violations = [] ↔ ∀ verdict ∈ verdicts, verdict = .ok none) := by
  unfold settle at h
  induction verdicts generalizing violations with
  | nil =>
    cases h
    simp
  | cons verdict rest ih =>
    obtain ⟨here, there, hhere, hthere, rfl⟩ := answer_both_ok h
    obtain ⟨hok, hiff⟩ := ih hthere
    rw [List.forall_mem_cons, List.forall_mem_cons]
    rcases verdict with f | _ | finding <;> cases hhere
    · refine ⟨⟨⟨none, rfl⟩, hok⟩, ?_⟩
      rw [List.nil_append, hiff]
      simp
    · exact ⟨⟨⟨some finding, rfl⟩, hok⟩, by simp⟩

/-- Constraints settle a fact that holds where none of them finds anything. -/
theorem settle_settles {p : Prop} (schema : Node) (value : Json) (path : Path)
    {verdicts : List Verdict}
    (iff : (∀ verdict ∈ verdicts, ∃ found, verdict = .ok found) →
      ((∀ verdict ∈ verdicts, verdict = .ok none) ↔ p)) :
    Settles answers scope (.settle schema value path verdicts) (.fact p) := by
  intro violations h
  obtain ⟨hok, hnil⟩ := answer_settle_ok h
  cases violations with
  | nil => exact .fact_true ((iff hok).mp (hnil.mp rfl))
  | cons violation more =>
    exact .fact_false fun holds => nomatch hnil.mpr ((iff hok).mpr holds)

end Plan

namespace Check

variable {answers : Answers} {scope : Scope}

theorem each_settles (decide : answers.Decide) (nodes : List Node) (value : Json) (path : Path) :
    List.Forall₂ (Plan.Settles answers scope) (each nodes value path)
      (nodes.map (.meets · value)) :=
  Plan.mapped_settles fun node _ => Plan.enter_settles decide node value path

theorem additionalItem_settles (decide : answers.Decide) (schema additional : Node) (i : Nat)
    (item : Json) (path : Path) :
    Plan.Settles answers scope (additionalItem schema additional i item path)
      ((Meaning.additionalItem additional).condition item) := by
  unfold additionalItem Meaning.additionalItem
  cases hjson : additional.json with
  | null => exact Plan.clean_settles trivial
  | bool b =>
    cases b with
    | true => exact Plan.clean_settles trivial
    | false => exact Plan.report_settles not_false _ _ _ _
  | arr nodes =>
    exact Plan.firstClean_settles (Plan.report_settles not_false _ _ _ _)
      (each_settles decide _ _ _)
  | _ => exact Plan.enter_settles decide _ _ _

/-- Elements settle what their indices demand, one by one. -/
theorem indexed_settles {options : Options} {schema : Node} (step : Nat → Json → Plan)
    (hstep : ∀ i item, Plan.Settles answers scope (step i item)
      ((Meaning.element options schema i).condition item)) (elements : List Json) :
    Plan.Settles answers scope (.all ((indexed elements).map fun (i, item) => step i item))
      (.all (elements.zipIdx.map fun (item, i) =>
        (Meaning.element options schema i).condition item)) := by
  unfold indexed
  rw [List.map_map]
  exact Plan.all_settles (Plan.mapped_settles fun (item, i) _ => hstep i item)

/-- Without items an element is additional, and only a schema demands something of it. -/
theorem element_of_no_items {schema : Node} (h : schema.member? "items" = none)
    (options : Options) (i : Nat) :
    Meaning.element options schema i =
      if isSchemaValue (additionalItems options schema).json then
        Meaning.additionalItem (additionalItems options schema)
      else .nothing := by
  unfold Meaning.element additionalItems
  rw [h]
  generalize (schema.member? "additionalItems").getD options.additionalItems = additional
  obtain ⟨json, address⟩ := additional
  cases json <;> rfl

theorem items_settles (decide : answers.Decide) (options : Options) (schema : Node)
    (elements : List Json) (path : Path) :
    Plan.Settles answers scope (items options schema elements path)
      (.all (elements.zipIdx.map fun (item, i) =>
        (Meaning.element options schema i).condition item)) := by
  unfold items
  cases hitems : schema.member? "items" with
  | none =>
    have hdemand := element_of_no_items hitems options
    dsimp only
    split
    · rename_i hschema
      apply indexed_settles
      intro i item
      rw [hdemand, if_pos hschema]
      exact additionalItem_settles decide _ _ _ _ _
    · rename_i hfree
      intro violations h
      cases h
      apply Decides.all_true
      intro condition hmem
      obtain ⟨⟨item, i⟩, _, rfl⟩ := List.mem_map.mp hmem
      rw [hdemand, if_neg hfree]
      exact .fact_true trivial
  | some node =>
    dsimp only
    split
    · rename_i harray
      apply indexed_settles
      intro i item
      unfold tupleItem Meaning.element
      rw [hitems]
      dsimp only
      rw [if_pos harray]
      cases node.items[i]? with
      | some own => exact Plan.enter_settles decide _ _ _
      | none => exact additionalItem_settles decide _ _ _ _ _
    · rename_i hsingle
      apply indexed_settles fun i item => .enter node item (path.index i)
      intro i item
      unfold Meaning.element
      rw [hitems]
      dsimp only
      rw [if_neg hsingle]
      exact Plan.enter_settles decide _ _ _

theorem array_settles (decide : answers.Decide) (options : Options) (schema : Node)
    (value : Json) (elements : List Json) (path : Path) :
    Plan.Settles answers scope (array options schema value elements path)
      (Meaning.array options schema elements) := by
  apply Plan.both_settles
  · apply Plan.settle_settles
    intro _
    rw [List.forall_mem_append, limitVerdicts_iff, List.forall_mem_singleton, Except.ok.injEq,
      uniqueItems_iff]
    rfl
  · exact items_settles decide options schema elements path

theorem dependency_settles (decide : answers.Decide) (schema : Node) (members : Members)
    (path : Path) (owner : String) (target : Node) :
    Plan.Settles answers scope (dependency schema members path owner target)
      (Meaning.dependency members target) := by
  unfold dependency Meaning.dependency
  cases target.json with
  | str name =>
    dsimp only
    split
    · exact Plan.clean_settles ‹_›
    · exact Plan.report_settles ‹_› _ _ _ _
  | obj _ => exact Plan.enter_settles decide _ _ _
  | _ => exact Plan.report_settles not_false _ _ _ _

theorem dependencies_settles (decide : answers.Decide) (options : Options) (schema : Node)
    (members : Members) (path : Path) :
    Plan.Settles answers scope (dependencies options schema members path)
      (Meaning.dependencies options schema members) := by
  unfold dependencies Meaning.dependencies declaredDependencies
  rw [table_eq]
  apply Plan.all_settles
  apply Plan.mapped_settles
  intro (owner, declared) _
  dsimp only
  cases Members.has members owner with
  | false => exact Plan.clean_settles trivial
  | true =>
    cases options.omits owner with
    | true => exact Plan.clean_settles trivial
    | false =>
      apply Plan.all_settles
      apply Plan.mapped_settles
      intro target _
      exact dependency_settles decide schema members path owner target

theorem additionalProperty_settles (decide : answers.Decide) (schema additional : Node)
    (members : Members) (name : String) (value : Json) (path : Path) :
    Plan.Settles answers scope (additionalProperty schema additional members name value path)
      ((Meaning.additionalProperty additional name).condition value) := by
  unfold additionalProperty Meaning.additionalProperty
  cases hjson : additional.json with
  | null => exact Plan.clean_settles trivial
  | bool b =>
    cases b with
    | true => exact Plan.clean_settles trivial
    | false => exact Plan.report_settles not_false _ _ _ _
  | _ =>
    dsimp only
    split
    · cases additional.member? name with
      | some node => exact Plan.enter_settles decide _ _ _
      | none => exact Plan.report_settles not_false _ _ _ _
    · exact Plan.enter_settles decide _ _ _

theorem property_settles (decide : answers.Decide) (options : Options) (schema : Node)
    (members : Members) (path : Path) (name : String) (value : Json) :
    Plan.Settles answers scope
      (property options schema members ((patternProperties? schema).map compiled) path name value)
      ((Meaning.property options schema name).condition value) := by
  unfold property Meaning.property properties
  rw [table_eq]
  cases (Meaning.table schema "properties").lookup name with
  | some node => exact Plan.enter_settles decide _ _ _
  | none =>
    have hpatterns : ((patternProperties? schema).map compiled).getD [] =
        compiled (Meaning.table schema "patternProperties") := by
      rw [patternProperties?_eq, Meaning.table]
      cases Meaning.table? schema "patternProperties" <;> rfl
    rw [hpatterns]
    dsimp only
    cases hfound : matching? name (compiled (Meaning.table schema "patternProperties")) with
    | error f => exact Plan.fault_settles f _
    | ok found =>
      rw [← matching?_compiled hfound]
      cases found with
      | some node => exact Plan.enter_settles decide _ _ _
      | none =>
        cases schema.member? "additionalProperties" with
        | some additional => exact additionalProperty_settles decide _ _ _ _ _ _
        | none =>
          rw [patternProperties?_eq]
          cases Meaning.table? schema "patternProperties" with
          | some patterns => exact Plan.report_settles not_false _ _ _ _
          | none => exact additionalProperty_settles decide _ _ _ _ _ _

theorem patternName_settles (schema : Node) (value : Json) (path : Path) (text : String) :
    Plan.Settles answers scope (patternName schema value path text)
      (.fact (∃ pattern, Pattern.ofText? text = .ok pattern)) := by
  unfold patternName
  cases Pattern.ofText? text with
  | ok pattern => exact Plan.clean_settles ⟨pattern, rfl⟩
  | error flaw =>
    cases flaw with
    | malformed => exact Plan.report_settles (by simp) _ _ _ _
    | _ => exact Plan.fault_settles _ _

theorem object_settles (decide : answers.Decide) (options : Options) (schema : Node)
    (members : Members) (path : Path) :
    Plan.Settles answers scope (object options schema members path)
      (Meaning.object options schema members) := by
  apply Plan.all_settles
  refine .cons ?_ (.cons ?_ (.cons ?_ (.cons ?_ .nil)))
  · apply Plan.settle_settles
    intro _
    rw [List.forall_mem_append, limitVerdicts_iff, required_iff]
    rfl
  · exact dependencies_settles decide options schema members path
  · rw [patternProperties?_eq]
    apply Plan.all_settles
    apply Plan.mapped_settles
    intro (text, _) _
    exact patternName_settles schema (.obj members) path text
  · apply Plan.all_settles
    apply Plan.mapped_settles
    intro (name, value) _
    exact property_settles decide options schema members path name value

theorem numeric_settles (fits : Bool) (schema : Node) (value : Json) (path : Path)
    (expected : SchemaType) :
    Plan.Settles answers scope
      (if fits then .settle schema value path (numberVerdicts schema value)
        else mismatch schema value path expected)
      (.fact (fits ∧ Meaning.NumberWithin schema value)) := by
  cases fits with
  | false => exact Plan.report_settles (by simp) _ _ _ _
  | true =>
    apply Plan.settle_settles
    intro _
    rw [numberVerdicts_iff, and_iff_right rfl]

theorem ofType_settles (decide : answers.Decide) (options : Options) (schema : Node)
    (value : Json) (path : Path) (type : SchemaType) :
    Plan.Settles answers scope (ofType options schema value path type)
      (Meaning.ofType options schema value type) := by
  cases type with
  | any => exact Plan.clean_settles trivial
  | boolean =>
    cases value with
    | bool b => exact Plan.clean_settles ⟨b, rfl⟩
    | _ => exact Plan.report_settles (by simp) _ _ _ _
  | null =>
    cases value with
    | null => exact Plan.clean_settles rfl
    | _ => exact Plan.report_settles (by simp) _ _ _ _
  | number => exact numeric_settles value.isNumber schema value path .number
  | integer => exact numeric_settles value.isIntegral schema value path .integer
  | string =>
    cases value with
    | str s =>
      apply Plan.settle_settles
      intro ok
      rw [textVerdicts_iff options schema s ok]
      simp
    | _ => exact Plan.report_settles (by simp) _ _ _ _
  | array =>
    cases value with
    | arr elements => exact array_settles decide options schema _ elements path
    | _ => exact Plan.report_settles not_false _ _ _ _
  | object =>
    cases value with
    | obj members => exact object_settles decide options schema members path
    | _ => exact Plan.report_settles not_false _ _ _ _

theorem type_settles (decide : answers.Decide) (options : Options) (schema : Node)
    (value : Json) (path : Path) (type : Node) :
    Plan.Settles answers scope (Check.type options schema value path type.json)
      (Meaning.namedType options schema value type) := by
  unfold Check.type Meaning.namedType namedType?
  cases type.json with
  | str name =>
    dsimp only
    cases SchemaType.ofName? name with
    | some type => exact ofType_settles decide options schema value path type
    | none => exact Plan.report_settles not_false _ _ _ _
  | _ => exact Plan.report_settles not_false _ _ _ _

theorem governingType?_eq (schema : Node) :
    governingType? schema = (Meaning.typeOf? schema).filter (!·.isNull) := by
  unfold governingType? Meaning.typeOf?
  cases htype : schema.member? "type" with
  | some type =>
    dsimp only
    rw [Option.filter_some]
    cases type.isNull <;> rfl
  | none =>
    unfold Node.member? at htype ⊢
    cases hjson : schema.json with
    | obj members =>
      rw [hjson] at htype
      dsimp only at htype ⊢
      rw [Option.map_eq_none_iff] at htype
      rw [Option.isSome_map, Option.isSome_map, inferredType?, htype,
        Members.has_eq_isSome_lookup, Members.has_eq_isSome_lookup]
      cases (members.lookup "properties").isSome with
      | true => rfl
      | false => cases (members.lookup "items").isSome <;> rfl
    | _ => rfl

theorem typed_settles (decide : answers.Decide) (options : Options) (schema : Node)
    (value : Json) (path : Path) :
    Plan.Settles answers scope
      (match governingType? schema with
      | none => .clean
      | some governingType =>
        if governingType.json.isArray then union options schema governingType value path
        else type options schema value path governingType.json)
      (Meaning.typed options schema value) := by
  unfold Meaning.typed
  rw [← governingType?_eq]
  cases governingType? schema with
  | none => exact Plan.clean_settles trivial
  | some type =>
    dsimp only
    split
    · apply Plan.firstClean_settles (Plan.report_settles not_false _ _ _ _)
      apply Plan.mapped_settles
      intro member _
      unfold unionMember
      split
      · exact Plan.enter_settles decide _ _ _
      · exact type_settles decide options schema value path member
    · exact type_settles decide options schema value path type

theorem enumeration_settles (schema members : Node) (value : Json) (path : Path) :
    Plan.Settles answers scope (enumeration schema members value path)
      (.fact (∃ allowed, members.json = .arr allowed ∧ ∃ member ∈ allowed, member.same value)) := by
  unfold enumeration
  cases members.json with
  | arr allowed =>
    dsimp only
    split
    · rename_i h
      exact Plan.clean_settles ⟨allowed, rfl, List.any_eq_true.mp h⟩
    · rename_i h
      refine Plan.report_settles ?_ _ _ _ _
      rintro ⟨_, heq, hany⟩
      cases heq
      exact h (List.any_eq_true.mpr hany)
  | _ => exact Plan.report_settles (by simp) _ _ _ _

theorem reference_settles (decide : answers.Decide) (options : Options) (root schema ref : Node)
    (value : Json) (path : Path) :
    Plan.Settles answers scope (reference options root schema ref.json value path)
      (Meaning.reference options root value ref) := by
  unfold reference Meaning.reference
  split
  · exact Plan.clean_settles trivial
  · cases resolve? ref.json options.definitions root with
    | error bad => exact Plan.fault_settles _ _
    | ok target =>
      cases target with
      | none => exact Plan.report_settles not_false _ _ _ _
      | some target => exact Plan.follow_settles decide ⟨ref.json.display, target, path⟩ value

theorem combined_settles {combine : List Condition → Condition} {schema members : Node}
    {value : Json} {path : Path} {whole : Plan} {finding : Finding}
    (hwhole : Plan.Settles answers scope whole (combine (members.items.map (.meets · value)))) :
    Plan.Settles answers scope
      (if members.json.isArray then whole else .report schema value path finding)
      (Meaning.combined combine value members) := by
  unfold Meaning.combined
  split
  · exact hwhole
  · exact Plan.report_settles not_false _ _ _ _

/-- The first of the keywords that govern a node is the one that decides what it means. -/
theorem governing_settles (decide : answers.Decide) (options : Options) (root schema : Node)
    (value : Json) (path : Path) {head : String × Json} {rest : Members}
    (hjson : schema.json = .obj (head :: rest)) :
    Plan.Settles answers scope (governing options root schema value path)
      (Meaning.node options root schema value) := by
  unfold governing Meaning.node
  rw [hjson]
  dsimp only
  cases schema.member? "enum" with
  | some members => exact enumeration_settles schema members value path
  | none =>
  cases schema.member? "oneOf" with
  | some members =>
    exact combined_settles (Plan.countClean_settles _ _ _ (each_settles decide _ _ _))
  | none =>
  cases schema.member? "allOf" with
  | some members => exact combined_settles (Plan.all_settles (each_settles decide _ _ _))
  | none =>
  cases schema.member? "anyOf" with
  | some members =>
    exact combined_settles (Plan.firstClean_settles (Plan.report_settles not_false _ _ _ _)
      (each_settles decide _ _ _))
  | none =>
  cases schema.member? "$ref" with
  | some ref => exact reference_settles decide options root schema ref value path
  | none => exact typed_settles decide options schema value path

theorem node_settles (decide : answers.Decide) (options : Options) (root schema : Node)
    (value : Json) (path : Path) :
    Plan.Settles answers scope (node options root schema value path)
      (Meaning.node options root schema value) := by
  unfold node
  cases hjson : schema.json with
  | obj members =>
    cases members with
    | nil =>
      unfold Meaning.node
      rw [hjson]
      exact Plan.clean_settles trivial
    | cons head rest => exact governing_settles decide options root schema value path hjson
  | null =>
    unfold Meaning.node
    rw [hjson]
    exact Plan.clean_settles trivial
  | _ =>
    unfold Meaning.node
    rw [hjson]
    exact Plan.report_settles not_false _ _ _ _

end Check

end JsonSchema
