import JsonSchema.Proofs.Copy
import JsonSchema.Proofs.Guards
import JsonSchema.Proofs.Relocation
import JsonSchema.Proofs.Typed

/-! A list of types asks for the same as the alternatives that its members stand for. The check
of a union takes the constraints of the node as they are, that of alternatives goes through each
of them from its start, and both end alike. -/
namespace JsonSchema

/-! What is tried out. -/

/-- The first of some answers that ends a trial of one branch after the other: a fault, or one
that finds nothing. -/
def Answer.decisive? : List Answer → Option Answer
  | [] => none
  | .ok (_ :: _) :: rest => decisive? rest
  | answer :: _ => some answer

namespace Answer

theorem decisive?_eq_some {answers : List Answer} {answer : Answer}
    (h : decisive? answers = some answer) : answer = .ok [] ∨ ∃ f, answer = .error f := by
  induction answers with
  | nil => cases h
  | cons first rest ih =>
    rcases first with f | _ | _
    · cases h
      exact .inr ⟨f, rfl⟩
    · cases h
      exact .inl rfl
    · exact ih h

/-- Answers that are the same but where a budget is spent decide alike. -/
theorem decisive?_congr {answers answers' : List Answer}
    (h : List.Forall₂ (fun answer answer' => answer ≠ .error .exhausted → answer' = answer)
      answers answers')
    (ends : decisive? answers ≠ some (.error .exhausted)) :
    decisive? answers' = decisive? answers := by
  induction h with
  | nil => rfl
  | @cons first first' rest rest' hfirst _ ih =>
    rcases first with f | _ | _
    · rw [hfirst fun hf => ends (congrArg some hf)]
      rfl
    · rw [hfirst nofun]
      rfl
    · rw [hfirst nofun]
      exact ih ends

end Answer

namespace Plan

variable {guard : Guard} (ignores : guard.IgnoresHook) {descend : Descent} {answers : Answers}
  (below : TellAll descend answers)
include ignores below

/-- A branch that is tried out comes to its answer, and tells nothing. -/
theorem on_run_trial (plan : Plan) (scope : Scope) (heard : List Notice) :
    (plan.run guard descend scope.trial).on heard = (plan.answer guard answers scope, heard) := by
  obtain ⟨told, htold⟩ := plan.run_tells ignores below scope (scope.trials + 1)
  have hrun := htold.on_eq scope.options.hook heard
  rw [htold.quiet (Nat.succ_pos _), hearing_nil] at hrun
  exact hrun

/-- By induction on the branches: the first that is decisive ends the trial. -/
theorem on_run_firstClean (otherwise : Plan) (plans : List Plan) (scope : Scope)
    (heard : List Notice) :
    ((Plan.firstClean otherwise plans).run guard descend scope).on heard =
      (Answer.decisive? (plans.map (·.answer guard answers scope))).elim
        ((otherwise.run guard descend scope).on heard) (·, heard) := by
  induction plans with
  | nil => rfl
  | cons plan rest ih =>
    rw [firstClean, on_run_probe, on_run_trial ignores below, List.map_cons]
    rcases plan.answer guard answers scope with f | _ | _
    · rfl
    · rfl
    · exact ih

end Plan

namespace Node

/-- The node with another type, where it stands. -/
def retyped (schema : Node) (type : Json) : Node :=
  ⟨.obj (Members.put "type" type schema.json.entries), schema.address⟩

/-- The schema that a member of a union stands for: itself, or the node with that one type. -/
def alternative (schema member : Node) : Node :=
  if member.json.isObject then member else schema.retyped member.json

/-- The schemas that the types of a node stand for. -/
def alternatives (schema : Node) : List Node :=
  (((schema.member? "type").map Node.items).getD []).map schema.alternative

/-- A node that is governed by a list of types, which are names and schemas, and that declares
nothing. -/
structure Unites (schema types : Node) : Prop where
  typed : schema.member? "type" = some types
  isArray : types.json.isArray
  member : ∀ member ∈ types.items, member.json.isObject ∨ ∃ name, member.json = .str name
  plain : ∀ keyword ∈ "definitions" :: "$ref" :: Check.combinators, schema.member? keyword = none

theorem member?_retyped (schema : Node) (type : Json) {keyword : String} (h : keyword ≠ "type") :
    (schema.retyped type).member? keyword = schema.member? keyword :=
  (schema.member?_put "type" type keyword).trans (if_neg h)

theorem requiredNames_retyped (schema : Node) (type : Json) :
    Check.requiredNames (schema.retyped type) = Check.requiredNames schema := by
  simp only [Check.requiredNames, Check.properties, value_eq,
    schema.member?_retyped type (show "required" ≠ "type" by decide),
    schema.member?_retyped type (show "properties" ≠ "type" by decide)]

theorem member?_retyped_type (schema : Node) (type : Json) :
    (schema.retyped type).member? "type" = some (schema.below (.key "type") type) :=
  (schema.member?_put "type" type "type").trans (if_pos rfl)

end Node

namespace Check

/-- Goes through a plan at a place, unless that is too deep. -/
def within (budget : Nat) (scope : Scope) (path : Path) (plan : Plan) : Check (List Violation) :=
  match Options.exceeds path.length scope.options.maxDepth with
  | none => throw .unusableOption
  | some true => throw (.refused (.depth scope.options.maxDepth) path.text)
  | some false => plan.run .chain (descend .chain budget) scope

/-- Where a place is too deep, no plan is gone through. -/
theorem within_or_refused (scope : Scope) (path : Path) :
    Options.exceeds path.length scope.options.maxDepth = some false ∨
      ∃ f : Fault, f ≠ .exhausted ∧ ∀ budget plan, within budget scope path plan = throw f := by
  unfold within
  rcases Options.exceeds path.length scope.options.maxDepth with _ | _ | _
  · exact .inr ⟨.unusableOption, nofun, fun _ _ => rfl⟩
  · exact .inl rfl
  · exact .inr ⟨.refused (.depth scope.options.maxDepth) path.text, nofun, fun _ _ => rfl⟩

/-- The check of a node that has nothing but alternatives, wherever these stand. -/
def descendAny (budget : Nat) (scope : Scope) (schema : Node) (alternatives : List Node)
    (value : Json) (path : Path) : Check (List Violation) :=
  within budget scope path (.firstClean (.report schema value path { kind := .anyOf, details := [] })
    (each alternatives value path))

section

variable {budget : Nat} {scope : Scope} {schema types : Node} {value : Json} {path : Path}

theorem declare_of_plain (h : schema.member? "definitions" = none) :
    Guard.chain.declare scope (declared schema) = scope := by
  have hdeclared : declared schema = [] := by
    rw [declared, h]
    rfl
  rw [hdeclared]
  exact Scope.withDefinitions_of_not_adds rfl

/-- What declares nothing is checked in the scope as it is. -/
theorem descend_of_plain (h : schema.member? "definitions" = none) :
    descend .chain (budget + 1) scope schema value path =
      within budget scope path (node scope.options scope.root schema value path) := by
  rw [descend, declare_of_plain h]
  rfl

/-- Within the limit, what declares nothing comes to what its plan does. -/
theorem answer_of_plain
    (within : Options.exceeds path.length scope.options.maxDepth = some false)
    (h : schema.member? "definitions" = none) :
    answer .chain (budget + 1) scope schema value path =
      (node scope.options scope.root schema value path).answer .chain (answer .chain budget)
        scope := by
  rw [answer, within, declare_of_plain h]

/-- The check of a node that has nothing but alternatives goes through these. -/
theorem descend_anyOf {alternatives : List Json}
    (hjson : schema.json = .obj [("anyOf", .arr alternatives)]) :
    descend .chain (budget + 1) scope schema value path =
      descendAny budget scope schema
        ((schema.below (.key "anyOf") (.arr alternatives)).items) value path := by
  have hmember : ∀ keyword, schema.member? keyword =
      (List.lookup keyword [("anyOf", Json.arr alternatives)]).map (schema.below (.key keyword)) := by
    intro keyword
    rw [Node.member?, hjson]
  rw [descend_of_plain (by rw [hmember]; rfl), node_of_obj hjson]
  simp [governing, hmember, List.lookup_cons]
  rfl

/-- Without a combinator or a reference, the declared type governs a node. -/
theorem node_of_typed {options : Options} {root named : Node}
    (typed : schema.member? "type" = some named) (proper : named.isNull = false)
    (plain : ∀ keyword ∈ "$ref" :: combinators, schema.member? keyword = none) :
    node options root schema value path =
      if named.json.isArray then union options schema named value path
      else type options schema value path named.json := by
  obtain ⟨members, hjson⟩ := obj_of_member? typed
  have hgoverning : governingType? schema = some named := by
    rw [governingType?, typed]
    simp [proper]
  simp only [combinators, List.forall_mem_cons] at plain
  obtain ⟨href, henum, hone, hall, hany, -⟩ := plain
  rw [node_of_obj hjson, governing, henum, hone, hall, hany, href, hgoverning]

theorem node_of_unites {options : Options} {root : Node} (unites : schema.Unites types) :
    node options root schema value path = union options schema types value path := by
  have hproper : types.isNull = false := by
    obtain ⟨items, hjson⟩ := Json.eq_arr_of_isArray unites.isArray
    rw [Node.isNull, hjson]
  rw [node_of_typed unites.typed hproper fun keyword h => unites.plain keyword (.tail _ h),
    if_pos unites.isArray]

end

section

variable {copies : Node → Node → Prop} (copying : Node.Copying copies) {scope : Scope}
  (hscope : (scope.listening 0 none).Copied copies (scope.listening 0 none)) {schema types : Node}
  (unites : schema.Unites types) {value : Json} {path : Path}
include copying hscope unites

/-- A value is checked against a type that a node names like against the node with that type
alone, or a copy of it. -/
theorem type_parallels_retyped {name : String} {copy : Node}
    (h : copies (schema.retyped (.str name)) copy) :
    Plan.Parallels (.copied copies) (type scope.options schema value path (.str name))
      (node scope.options scope.root copy value path) := by
  have hplain : ∀ keyword ∈ "$ref" :: combinators, copy.member? keyword = none := by
    intro keyword hkeyword
    refine copying.member?_eq_none h ?_
    rw [schema.member?_retyped (.str name) (by rintro rfl; revert hkeyword; decide)]
    exact unites.plain keyword (.tail _ hkeyword)
  obtain ⟨named, htyped, hnamed⟩ : ∃ named, copy.member? "type" = some named ∧
      named.json = .str name := by
    have htype := copying.member? h "type"
    rw [schema.member?_retyped_type] at htype
    generalize copy.member? "type" = found at htype
    cases htype with
    | some hnamed => exact ⟨_, rfl, copying.json hnamed⟩
  have hconstrained : Constrained (.copied copies) (scope.listening 0 none).options
      (scope.listening 0 none).options path schema copy := by
    refine constrained_copied copying hscope (fun keyword constraint => ?_) ?_
    · rw [← schema.member?_retyped (.str name) (by rintro rfl; revert constraint; decide)]
      exact copying.keywords h keyword
    · rw [copying.requiredNames h, schema.requiredNames_retyped]
  rw [node_of_typed htyped (by rw [Node.isNull, hnamed]) hplain, hnamed]
  exact hconstrained.type_parallels rfl (.str name)

/-- A member of a union comes to what the schema that it stands for comes to. -/
theorem answer_alternative
    (hwithin : Options.exceeds path.length scope.options.maxDepth = some false)
    {budget budget' : Nat} (le : budget + 1 ≤ budget') {member copy : Node}
    (hmember : member ∈ types.items) (h : copies (schema.alternative member) copy)
    (ends : (unionMember scope.options schema value path member).answer .chain
      (answer .chain budget) scope ≠ .error .exhausted) :
    answer .chain budget' scope copy value path =
      (unionMember scope.options schema value path member).answer .chain (answer .chain budget)
        scope := by
  unfold Node.alternative at h
  unfold unionMember at ends ⊢
  rcases unites.member member hmember with hobject | ⟨name, hname⟩
  · rw [if_pos hobject] at h ends ⊢
    exact answer_copied copying (by omega) hscope h ends
  · have hatom : ¬ member.json.isObject := by rw [hname]; nofun
    obtain ⟨larger, rfl⟩ : ∃ larger, budget' = larger + 1 := ⟨budget' - 1, by omega⟩
    rw [if_neg hatom, hname] at h ends ⊢
    rw [answer_of_plain hwithin (copying.member?_eq_none h ?_)]
    · exact Plan.answer_copied copying (by omega) hscope
        (type_parallels_retyped copying hscope unites h) ends
    · rw [schema.member?_retyped (.str name) (by decide)]
      exact unites.plain "definitions" (.head _)

end

/-- How the check of a union ends beside that of its alternatives: both find nothing, both end in
one fault, or each reports one violation of its own at the place of the value. Nothing else is
told. -/
inductive UnionEnds (scope : Scope) (schema anyOf : Node) (value : Json) (path : Path)
    (heard : List Notice) : Answer × List Notice → Answer × List Notice → Prop
  | clean : UnionEnds scope schema anyOf value path heard (.ok [], heard) (.ok [], heard)
  | failed {f : Fault} : f ≠ .exhausted →
      UnionEnds scope schema anyOf value path heard (.error f, heard) (.error f, heard)
  | wrong {finding finding' : Finding} :
      finding.kind = .unionTypeNotValid → finding.below = [] →
      finding'.kind = .anyOf → finding'.below = [] →
      UnionEnds scope schema anyOf value path heard
        ((scope.report schema value path finding).on heard)
        ((scope.report anyOf value path finding').on heard)

/-- Verdicts of a union and of its alternatives: both find nothing, both end in one fault, or each
finds one violation of its own at a path. -/
inductive UnionVerdicts (path : Path) : Answer → Answer → Prop
  | clean : UnionVerdicts path (.ok []) (.ok [])
  | failed {f : Fault} : f ≠ .exhausted → UnionVerdicts path (.error f) (.error f)
  | wrong {violation violation' : Violation} :
      violation.kind = .unionTypeNotValid → violation.path = path →
      violation'.kind = .anyOf → violation'.path = path →
      UnionVerdicts path (.ok [violation]) (.ok [violation'])

/-- Where a hook listens, it stops at a violation of a union if it stops at one of alternatives. -/
def HearsAlike (scope : Scope) (heard : List Notice) : Prop :=
  scope.trials = 0 → ∀ listens, scope.options.hook = some listens → ∀ notice notice' : Notice,
    notice.violation.kind = .unionTypeNotValid → notice'.violation.kind = .anyOf →
    listens (heard ++ [notice]) = listens (heard ++ [notice'])

section

variable {scope : Scope} {schema types anyOf : Node} {value : Json} {path : Path}
  {heard : List Notice}

theorem UnionEnds.verdicts {union alternatives : Answer × List Notice}
    (h : UnionEnds scope schema anyOf value path heard union alternatives)
    (alike : HearsAlike scope heard) : UnionVerdicts path union.1 alternatives.1 := by
  cases h with
  | clean => exact .clean
  | failed hf => exact .failed hf
  | @wrong finding finding' hkind hbelow hkind' hbelow' =>
    have hplace : (finding.violation path).path = path := by
      change path ++ finding.below = path
      rw [hbelow, List.append_nil]
    have hplace' : (finding'.violation path).path = path := by
      change path ++ finding'.below = path
      rw [hbelow', List.append_nil]
    have hfound : UnionVerdicts path (.ok [finding.violation path]) (.ok [finding'.violation path]) :=
      .wrong hkind hplace hkind' hplace'
    have hrun := on_report scope scope.trials scope.options.hook schema value path finding heard
    have hrun' := on_report scope scope.trials scope.options.hook anyOf value path finding' heard
    change (scope.report schema value path finding).on heard = _ at hrun
    change (scope.report anyOf value path finding').on heard = _ at hrun'
    rw [hrun, hrun']
    by_cases htrials : scope.trials = 0
    · cases hlistens : scope.options.hook with
      | none =>
        rw [hearing_none, hearing_none]
        exact hfound
      | some listens =>
        have hsame := alike htrials listens hlistens
          ((finding.violation path).notice schema.json value)
          ((finding'.violation path).notice anyOf.json value) hkind hkind'
        rw [if_pos htrials, if_pos htrials, hearing_cons, hearing_cons, hsame]
        cases listens (heard ++ [(finding'.violation path).notice anyOf.json value]) with
        | some message => exact .failed nofun
        | none => exact hfound
    · rw [if_neg htrials, if_neg htrials]
      exact hfound

/-- The answers of the members of a union. -/
def memberAnswers (budget : Nat) (scope : Scope) (schema types : Node) (value : Json)
    (path : Path) : List Answer :=
  types.items.map fun member =>
    (unionMember scope.options schema value path member).answer .chain (answer .chain budget) scope

/-- The trial of the members of a union ends with the first that is decisive. -/
theorem on_union {budget : Nat} :
    ((union scope.options schema types value path).run .chain (descend .chain budget) scope).on heard =
      (Answer.decisive? (memberAnswers budget scope schema types value path)).elim
        ((scope.report schema value path (unionFinding (types.items.map Node.json))).on heard)
        (·, heard) := by
  rw [union_eq, Plan.on_run_firstClean Guard.chain_ignoresHook
    (descend_tells Guard.chain_ignoresHook budget), List.map_map]
  rfl

/-- A node that can stand for another one in a scope. -/
def HasCopy (scope : Scope) (node copy : Node) : Prop :=
  ∃ copies : Node → Node → Prop, Node.Copying copies ∧
    (∀ known ∈ scope.known, copies known known) ∧ copies node copy

/-- The trial of alternatives, or of copies of them, ends like that of the members of the union. -/
theorem on_descendAny (unites : schema.Unites types)
    (hwithin : Options.exceeds path.length scope.options.maxDepth = some false)
    {budget budget' : Nat} (le : budget + 1 ≤ budget') {nodes : List Node}
    (hnodes : List.Forall₂ (HasCopy scope) schema.alternatives nodes)
    (ends : Answer.decisive? (memberAnswers budget scope schema types value path) ≠
      some (.error .exhausted)) :
    (descendAny budget' scope anyOf nodes value path).on heard =
      (Answer.decisive? (memberAnswers budget scope schema types value path)).elim
        ((scope.report anyOf value path { kind := .anyOf, details := [] }).on heard)
        (·, heard) := by
  have halternatives : schema.alternatives = types.items.map schema.alternative := by
    rw [Node.alternatives, unites.typed]
    rfl
  rw [halternatives, List.forall₂_map_left_iff] at hnodes
  have hsame : Answer.decisive? (nodes.map fun node => answer .chain budget' scope node value path) =
      Answer.decisive? (memberAnswers budget scope schema types value path) := by
    refine Answer.decisive?_congr ?_ ends
    rw [memberAnswers, List.forall₂_map_left_iff, List.forall₂_map_right_iff]
    refine ((List.forall₂_and_left _ _).mpr ⟨fun _ => id, hnodes⟩).imp ?_
    rintro member node ⟨hmember, copies, copying, hknown, hcopy⟩ hends
    exact answer_alternative copying (Scope.copied_self hknown (View.bounds_none _)) unites hwithin le hmember hcopy hends
  rw [descendAny, Check.within, hwithin]
  dsimp only
  rw [Plan.on_run_firstClean Guard.chain_ignoresHook
    (descend_tells Guard.chain_ignoresHook budget'), each, List.map_map, ← hsame]
  rfl

/-- The trial of members that do not exhaust the budget ends beside that of all alternatives that
can stand for them, whatever node these are asked for by. -/
theorem exists_unionEnds (unites : schema.Unites types) (json : Json) {budget : Nat}
    (ends : ((within budget scope path (union scope.options schema types value path)).on heard).1 ≠
      .error .exhausted) :
    ∃ alternatives : Answer × List Notice,
      UnionEnds scope schema ⟨json, none⟩ value path heard
        ((within budget scope path (union scope.options schema types value path)).on heard)
        alternatives ∧
      ∀ budget' nodes address, budget + 1 ≤ budget' →
        List.Forall₂ (HasCopy scope) schema.alternatives nodes →
        (descendAny budget' scope ⟨json, address⟩ nodes value path).on heard = alternatives := by
  rcases within_or_refused scope path with hwithin | ⟨f, hf, hrefused⟩
  · let decisive := Answer.decisive? (memberAnswers budget scope schema types value path)
    have hunion : (within budget scope path (union scope.options schema types value path)).on heard =
        decisive.elim ((scope.report schema value path
          (unionFinding (types.items.map Node.json))).on heard) (·, heard) := by
      rw [within, hwithin]
      exact on_union
    have hends : decisive ≠ some (.error .exhausted) := by
      intro hdecisive
      rw [hunion, hdecisive] at ends
      exact ends rfl
    refine ⟨decisive.elim ((scope.report ⟨json, none⟩ value path
        { kind := .anyOf, details := [] }).on heard) (·, heard), ?_,
      fun budget' nodes address le hnodes => on_descendAny unites hwithin le hnodes hends⟩
    rw [hunion]
    cases hdecisive : decisive with
    | none => exact .wrong rfl rfl rfl rfl
    | some answer =>
      rcases Answer.decisive?_eq_some hdecisive with rfl | ⟨f, rfl⟩
      · exact .clean
      · refine .failed ?_
        rintro rfl
        exact hends hdecisive
  · rw [hrefused]
    refine ⟨_, .failed hf, fun budget' nodes address _ _ => ?_⟩
    rw [descendAny, hrefused]
    rfl

end

end Check

namespace Node

variable {node child schema types : Node} {here there : Address}

theorem exists_below_of_mem_items (h : child ∈ node.items) :
    ∃ step json, child = node.below step json := by
  rw [items_eq] at h
  obtain ⟨i, hi⟩ := List.mem_iff_getElem?.mp h
  rw [getElem?_itemsFrom] at hi
  obtain ⟨item, _, rfl⟩ := Option.map_eq_some_iff.mp hi
  exact ⟨_, item, rfl⟩

theorem address_below (h : node.address = some here) (step : Step) (json : Json) :
    (node.below step json).address = some ⟨here.origin, step :: here.steps⟩ := by
  rw [below, h]
  rfl

/-- The alternatives of a union stand in the document of the node. -/
theorem address_of_mem_alternatives (h : schema.address = some here)
    (hchild : child ∈ schema.alternatives) :
    ∃ steps, child.address = some ⟨here.origin, steps⟩ := by
  obtain ⟨member, hmember, rfl⟩ := List.mem_map.mp hchild
  unfold alternative
  split
  · cases htypes : schema.member? "type" with
    | none =>
      rw [htypes] at hmember
      cases hmember
    | some types =>
      rw [htypes] at hmember
      obtain ⟨step, json, rfl⟩ := exists_below_of_mem_items hmember
      rw [member?_eq_map] at htypes
      obtain ⟨own, _, rfl⟩ := Option.map_eq_some_iff.mp htypes
      exact ⟨_, address_below (address_below h _ own) step json⟩
  · exact ⟨here.steps, h⟩

end Node

/-- Whether no node that a scope knows stands in a document. -/
def Scope.Ignores (scope : Scope) (origin : Origin) : Prop :=
  ∀ node ∈ scope.known, ∀ address, node.address = some address → address.origin ≠ origin

instance (scope : Scope) (origin : Origin) : Decidable (scope.Ignores origin) :=
  decidable_of_iff (∀ node ∈ scope.known, ∀ address ∈ node.address, address.origin ≠ origin) Iff.rfl

/-- Where neither document is known, what stands in one can stand in the other. -/
theorem Check.hasCopy_of_ignores {scope : Scope} {origin origin' : Origin} {steps steps' : List Step}
    (ignores : scope.Ignores origin) (ignores' : scope.Ignores origin') {node copy : Node}
    (haddress : node.address = some ⟨origin, steps⟩)
    (haddress' : copy.address = some ⟨origin', steps'⟩) (hjson : copy.json = node.json) :
    HasCopy scope node copy := by
  obtain ⟨json, _⟩ := node
  obtain ⟨_, _⟩ := copy
  cases haddress
  cases haddress'
  cases hjson
  refine ⟨Node.CopiedTo ⟨origin, steps⟩ ⟨origin', steps'⟩, Node.copying_copiedTo _ _, ?_,
    .moves json []⟩
  exact fun known hknown => .stays fun address h =>
    ⟨ignores known hknown address h, ignores' known hknown address h⟩

/-- The values of nodes in one document, put into a list in another, are copies of the nodes. -/
theorem Check.hasCopy_items {scope : Scope} {origin origin' : Origin} {steps' : List Step}
    {parent : Node} (hparent : parent.address = some ⟨origin', steps'⟩)
    (ignores : scope.Ignores origin) (ignores' : scope.Ignores origin') {nodes : List Node}
    (hnodes : ∀ node ∈ nodes, ∃ steps, node.address = some ⟨origin, steps⟩) (start : Nat) :
    List.Forall₂ (HasCopy scope) nodes (parent.itemsFrom start (nodes.map Node.json)) := by
  induction nodes generalizing start with
  | nil => exact .nil
  | cons node rest ih =>
    obtain ⟨steps, haddress⟩ := hnodes node List.mem_cons_self
    have hchild := Node.address_below hparent (.index start) node.json
    refine .cons (hasCopy_of_ignores ignores ignores' haddress hchild rfl) ?_
    exact ih (fun other hother => hnodes other (List.mem_cons_of_mem _ hother)) _

namespace Session

end Session

end JsonSchema
