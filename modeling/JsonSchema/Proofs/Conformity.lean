import JsonSchema.Proofs.Constraint
import JsonSchema.Proofs.Counterpart
import JsonSchema.Proofs.Creation
import JsonSchema.Proofs.Guards
import JsonSchema.Proofs.Relocation
import JsonSchema.Proofs.Sameness
import JsonSchema.Proofs.Termination
import JsonSchema.Proofs.Unambiguous

/-! A value made up for a schema meets it, where each node of the schema has one form and says
no more than what creation looks at. Creation and validation go through the same nodes there:
what one of them takes from a node, the other one checks against it. -/
namespace JsonSchema

/-- An outcome that is good, unless the steps have run out before. -/
def Yields {α : Type} (good : α → Prop) (outcome : Except Fault α) : Prop :=
  outcome = .error .exhausted ∨ ∃ a, outcome = .ok a ∧ good a

theorem yields_ok {α : Type} {good : α → Prop} {a : α} (h : good a) : Yields good (.ok a) :=
  .inr ⟨a, rfl, h⟩

theorem yields_exhausted {α : Type} {good : α → Prop} : Yields good (.error .exhausted) :=
  .inl rfl

theorem Yields.map {α β : Type} {good : α → Prop} {good' : β → Prop} {outcome : Except Fault α}
    {f : α → β} (h : Yields good outcome) (onward : ∀ a, good a → good' (f a)) :
    Yields good' (outcome.map f) := by
  rcases h with rfl | ⟨a, rfl, ha⟩
  · exact yields_exhausted
  · exact yields_ok (onward a ha)

theorem Yields.imp {α : Type} {good good' : α → Prop} {outcome : Except Fault α}
    (h : Yields good outcome) (onward : ∀ a, good a → good' a) : Yields good' outcome :=
  Or.imp_right (Exists.imp fun a ha => ⟨ha.1, onward a ha.2⟩) h

theorem Yields.of_ends {α : Type} {good : α → Prop} {outcome : Except Fault α}
    (h : Yields good outcome) (ends : outcome ≠ .error .exhausted) :
    ∃ a, outcome = .ok a ∧ good a :=
  h.resolve_left ends

theorem mapM_yields {α β : Type} {good : α → β → Prop} {f : α → Except Fault β} {l : List α}
    (each : ∀ a ∈ l, Yields (good a) (f a)) : Yields (List.Forall₂ good l) (l.mapM f) := by
  induction l with
  | nil => exact yields_ok .nil
  | cons a rest ih =>
    rw [List.forall_mem_cons] at each
    rcases each.1 with ha | ⟨b, ha, hb⟩
    · exact .inl (mapM_cons_error ha rest)
    · rw [mapM_cons_ok ha]
      exact (ih each.2).map fun bs hbs => .cons hb hbs

namespace Node

variable {node child inner : Node}

theorem Inside.isProper (h : Inside node inner) (proper : node.json.isProper) :
    inner.json.isProper := by
  induction h with
  | self => exact proper
  | deeper hchild _ ih =>
    obtain ⟨step, hpart⟩ := part_of_mem_children hchild
    exact ih (hpart.isProper proper)

end Node

namespace Plan

variable {answers : Answers} {scope : Scope} {first second plan : Plan} {plans : List Plan}

/-- Nothing is found by a plan. -/
def Passes (answers : Answers) (scope : Scope) (plan : Plan) : Prop :=
  Yields (· = []) (plan.answer .chain answers scope)

theorem passes_clean : Passes answers scope .clean :=
  yields_ok rfl

theorem Passes.both (h : first.Passes answers scope) (h' : second.Passes answers scope) :
    (Plan.both first second).Passes answers scope := by
  unfold Passes
  rcases h with h | ⟨_, h, rfl⟩
  · exact .inl (answer_both_of_error h second)
  · rw [answer_both_of_ok h]
    exact h'.map fun found hfound => hfound

theorem passes_all (each : ∀ plan ∈ plans, plan.Passes answers scope) :
    (all plans).Passes answers scope := by
  induction plans with
  | nil => exact passes_clean
  | cons plan rest ih =>
    rw [List.forall_mem_cons] at each
    exact each.1.both (ih each.2)

theorem passes_settle {schema : Node} {value : Json} {path : Path} {verdicts : List Verdict}
    (free : ∀ verdict ∈ verdicts, verdict = .ok none) :
    (settle schema value path verdicts).Passes answers scope := by
  refine passes_all fun plan hplan => ?_
  obtain ⟨verdict, hverdict, rfl⟩ := List.mem_map.mp hplan
  rw [free verdict hverdict]
  exact passes_clean

theorem Passes.probe {next : Bool → Plan} (h : plan.Passes answers scope)
    (h' : (next true).Passes answers scope) : (Plan.probe plan next).Passes answers scope := by
  unfold Passes
  rcases h with h | ⟨_, h, rfl⟩
  · exact .inl (answer_probe_of_error h next)
  · rw [answer_probe_of_ok h]
    exact h'

/-- After a first branch that finds nothing the others are not tried. -/
theorem Passes.firstClean (h : plan.Passes answers scope) (otherwise : Plan) (rest : List Plan) :
    (firstClean otherwise (plan :: rest)).Passes answers scope :=
  h.probe passes_clean

end Plan

namespace Placeholder

variable {table : Definitions} {root node target : Node} {limit : Json} {active : List String}
  {value : Json} {inside : Node → Prop}

/-- Keywords that creation does not look at and that can forbid a value of the right type. -/
def limits : List String :=
  ["patternProperties", "dependencies", "minimum", "maximum", "exclusiveMinimum",
   "exclusiveMaximum", "multipleOf", "minLength", "maxLength", "pattern", "minItems", "maxItems",
   "minProperties", "maxProperties"]

/-- Without a default, with definitions only at the root, and with no other governing keyword
than perhaps the given one. -/
structure Plain (root node : Node) (keyword : String) : Prop where
  undefaulted : node.member? "default" = none
  ownless : node = root ∨ node.member? "definitions" = none
  alone : ∀ other ∈ Check.precedence, other ≠ keyword → node.member? other = none

/-- A type that is declared or told by the shape, on its own or as the first of a list. -/
def Names (node first : Node) : Prop :=
  ∃ type, typeOf? node = some type ∧
    (type.json.isArray = false ∧ first = type ∨ ∃ rest, type.items = first :: rest)

/-- The forms of a node, given which nodes are in the fragment. -/
inductive Form (table : Definitions) (root : Node) (inside : Node → Prop) (node : Node) : Prop
  | null : node.json = .null → Form table root inside node
  | empty : node.json = .obj [] → Form table root inside node
  | enumeration {members : Node} {first : Json} {rest : List Json} : Plain root node "enum" →
      node.member? "enum" = some members → members.json = .arr (first :: rest) →
      Form table root inside node
  | anyOf {members first : Node} {rest : List Node} : Plain root node "anyOf" →
      node.member? "anyOf" = some members → members.items = first :: rest → inside first →
      Form table root inside node
  | single {keyword : String} {members only : Node} : keyword ∈ ["allOf", "oneOf"] →
      Plain root node keyword → node.member? keyword = some members → members.items = [only] →
      inside only → Form table root inside node
  | reference {ref target : Node} {name : String} : Plain root node "$ref" →
      node.member? "$ref" = some ref → ref.json = .str name →
      resolve? (.str name) table root = .ok (some target) → inside target →
      Form table root inside node
  | typed {first : Node} {type : SchemaType} : Plain root node "type" → Names node first →
      first.json = .str type.name → (∀ keyword ∈ limits, node.member? keyword = none) →
      (∀ property ∈ Check.properties node, inside property.2) →
      (∀ name ∈ Check.namesIn (node.value "required"),
        name ∈ (Check.properties node).map Prod.fst) →
      Form table root inside node
  | union {type first : Node} {rest : List Node} : Plain root node "type" →
      typeOf? node = some type → type.items = first :: rest → first.json.isObject →
      inside first → Form table root inside node

/-- In the fragment are the nodes that have such a form as long as the nodes do that it turns
on, references among them, which may lead back. -/
def Fragment (table : Definitions) (root node : Node) : Prop :=
  ∃ inside : Node → Prop, (∀ node, inside node → Form table root inside node) ∧ inside node

/-- The reference of a node, if it turns on one, is not among those that are being followed. -/
def Fresh (following : List String) (node : Node) : Prop :=
  ∀ name, shape node = .reference (.str name) → name ∉ following

/-- A scope of a run with a table of definitions and a limit on nesting, in which no other
references are being followed than those that creation is following. -/
structure Stands (table : Definitions) (root : Node) (limit : Json) (active : List String)
    (scope : Scope) : Prop where
  options : scope.options = { Options.standard with definitions := table, maxDepth := limit }
  root : scope.root = root
  chain : ∀ link ∈ scope.chain, link.reference ∈ active

/-- The check of a value against a node finds nothing, wherever the value stands. -/
def Conforms (table : Definitions) (root : Node) (active : List String) (node : Node)
    (value : Json) : Prop :=
  ∀ limit steps scope path, Stands table root limit active scope → value.Fits path limit →
    Yields (· = []) (Check.answer .chain steps scope node value path)

theorem Stands.follow {scope : Scope} (stands : Stands table root limit active scope)
    {name : String} (fresh : name ∉ active) (target : Node) (path : Path) :
    ∃ next, Guard.chain.follow scope ⟨name, target, path⟩ = .ok next ∧
      Stands table root limit (name :: active) next := by
  have hloop : scope.chain.any (·.isSame ⟨name, target, path⟩) = false := by
    refine List.any_eq_false.mpr fun link hlink hsame => ?_
    rw [Link.isSame, Bool.and_eq_true, Bool.and_eq_true, beq_iff_eq] at hsame
    have hname : link.reference = name := hsame.1.1
    exact fresh (hname ▸ stands.chain link hlink)
  refine ⟨{ scope with chain := scope.chain ++ [⟨name, target, path⟩] }, ?_,
    stands.options, stands.root, fun link hlink => ?_⟩
  · change Scope.follow _ _ = _
    rw [Scope.follow, hloop, if_neg Bool.false_ne_true]
  · rcases List.mem_append.mp hlink with hold | hnew
    · exact List.mem_cons_of_mem _ (stands.chain link hold)
    · cases List.mem_singleton.mp hnew
      exact List.mem_cons_self

/-- The check of a node finds nothing if its plan does not, and all its definitions are in
force. -/
theorem Conforms.of_node (bound : table.adds (Check.declared node) = false)
    (passes : ∀ limit steps scope path, Stands table root limit active scope →
      value.Fits path limit → (Check.node scope.options scope.root node value path).Passes
        (Check.answer .chain steps) scope) :
    Conforms table root active node value := by
  intro limit steps scope path stands fits
  cases steps with
  | zero => exact yields_exhausted
  | succ steps =>
    have hdepth : Options.exceeds path.length scope.options.maxDepth = some false := by
      rw [stands.options]
      exact fits.here
    have hdeclare : Guard.chain.declare scope (Check.declared node) = scope := by
      apply Scope.withDefinitions_of_not_adds
      rw [stands.options]
      exact bound
    rw [Check.answer, hdepth]
    simp only [hdeclare]
    exact passes limit steps scope path stands fits

namespace Plain

variable {keyword : String}

/-- The only governing keyword is the first one in any order. -/
theorem shape_eq (plain : Plain root node keyword) (known : keyword ∈ Check.precedence)
    {member : Node} (present : node.member? keyword = some member)
    (listed : keyword = "enum" → member.json.isArray) :
    shape node = governedShape keyword member := by
  refine shape_of_first known plain.undefaulted present listed fun other hother => ?_
  have hknown : ∀ other ∈ precedence, other ∈ Check.precedence := by decide
  have hne := List.mem_takeWhile_imp hother
  exact plain.alone other (hknown other ((List.takeWhile_prefix _).subset hother))
    (of_decide_eq_true hne)

theorem shape_of_members (plain : Plain root node keyword)
    (combines : keyword ∈ ["allOf", "anyOf", "oneOf"]) {members first : Node} {rest : List Node}
    (h : node.member? keyword = some members) (hitems : members.items = first :: rest) :
    shape node = .schema first := by
  have hknown : ∀ keyword ∈ ["allOf", "anyOf", "oneOf"],
      keyword ∈ Check.precedence ∧ keyword ≠ "enum" ∧ keyword ≠ "$ref" := by decide
  obtain ⟨known, henum, href⟩ := hknown keyword combines
  rw [plain.shape_eq known h fun h => absurd h henum, governedShape, if_neg henum, if_neg href,
    ofCombinator, hitems]

theorem shape_type (plain : Plain root node "type") {type : Node} (h : typeOf? node = some type) :
    shape node = ofType node type := by
  have hnone : combinators.findSome? node.member? = none := by
    have hknown : ∀ keyword ∈ combinators, keyword ∈ Check.precedence ∧ keyword ≠ "type" := by
      decide
    exact List.findSome?_eq_none_iff.mpr fun keyword combines =>
      plain.alone keyword (hknown keyword combines).1 (hknown keyword combines).2
  have henum : node.value "enum" = .null := by
    rw [Node.value_eq, plain.alone "enum" (by decide) (by decide)]
    rfl
  unfold shape
  rw [plain.undefaulted, henum, plain.alone "$ref" (by decide) (by decide), hnone, h]

section

variable {options : Options} {top : Node} {path : Path}

theorem governing_enumeration {members : Node} (h : node.member? "enum" = some members) :
    Check.governing options top node value path =
      Check.enumeration node members value path := by
  unfold Check.governing
  rw [h]

theorem governing_oneOf (plain : Plain root node "oneOf") {members : Node}
    (h : node.member? "oneOf" = some members) :
    Check.governing options top node value path = Check.oneOf node members value path := by
  unfold Check.governing
  rw [plain.alone "enum" (by decide) (by decide), h]

theorem governing_allOf (plain : Plain root node "allOf") {members : Node}
    (h : node.member? "allOf" = some members) :
    Check.governing options top node value path = Check.allOf node members value path := by
  unfold Check.governing
  rw [plain.alone "enum" (by decide) (by decide), plain.alone "oneOf" (by decide) (by decide),
    h]

theorem governing_anyOf (plain : Plain root node "anyOf") {members : Node}
    (h : node.member? "anyOf" = some members) :
    Check.governing options top node value path = Check.anyOf node members value path := by
  unfold Check.governing
  rw [plain.alone "enum" (by decide) (by decide), plain.alone "oneOf" (by decide) (by decide),
    plain.alone "allOf" (by decide) (by decide), h]

theorem governing_reference (plain : Plain root node "$ref") {ref : Node}
    (h : node.member? "$ref" = some ref) :
    Check.governing options top node value path =
      Check.reference options top node ref.json value path := by
  unfold Check.governing
  rw [plain.alone "enum" (by decide) (by decide), plain.alone "oneOf" (by decide) (by decide),
    plain.alone "allOf" (by decide) (by decide), plain.alone "anyOf" (by decide) (by decide),
    h]

theorem governing_type (plain : Plain root node "type") {type : Node}
    (h : Check.governingType? node = some type) :
    Check.governing options top node value path =
      if type.json.isArray then Check.union options node type value path
      else Check.type options node value path type.json := by
  unfold Check.governing
  rw [plain.alone "enum" (by decide) (by decide), plain.alone "oneOf" (by decide) (by decide),
    plain.alone "allOf" (by decide) (by decide), plain.alone "anyOf" (by decide) (by decide),
    plain.alone "$ref" (by decide) (by decide), h]

end

end Plain

/-- Validation goes by the same type as creation. -/
theorem governingType?_of_typeOf? {type : Node} (h : typeOf? node = some type)
    (meant : type.isNull = false) : Check.governingType? node = some type := by
  unfold typeOf? at h
  unfold Check.governingType?
  cases hdeclared : node.member? "type" with
  | some declared =>
    rw [hdeclared] at h
    cases h
    dsimp only
    rw [meant]
    rfl
  | none =>
    rw [hdeclared] at h
    exact h

theorem declared_of_ownless (absorbed : table.adds (Check.declared root) = false)
    (ownless : node = root ∨ node.member? "definitions" = none) :
    table.adds (Check.declared node) = false := by
  rcases ownless with rfl | hnone
  · exact absorbed
  · rw [Check.declared, hnone]
    rfl

theorem isArray_of_items {members first : Node} {rest : List Node}
    (h : members.items = first :: rest) : members.json.isArray = true := by
  unfold Node.items at h
  cases hjson : members.json with
  | arr => rfl
  | _ =>
    rw [hjson] at h
    cases h

section

variable {scope : Scope} {path : Path} {answers : Answers}

theorem value_of_free (free : ∀ keyword ∈ limits, node.member? keyword = none) {keyword : String}
    (limited : keyword ∈ limits) : node.value keyword = .null := by
  rw [Node.value_eq, free keyword limited]
  rfl

theorem limitVerdicts_free {least most : Kind} (hleast : node.value least.name = .null)
    (hmost : node.value most.name = .null) (count : Nat) :
    ∀ verdict ∈ Check.limitVerdicts node least most count, verdict = .ok none := by
  simp [Check.limitVerdicts, hleast, hmost, Check.tooFew, Check.tooMany, Check.limitFinding,
    Json.isNumber]

theorem numberVerdicts_free (free : ∀ keyword ∈ limits, node.member? keyword = none) :
    ∀ verdict ∈ Check.numberVerdicts node value, verdict = .ok none := by
  have hvalue (keyword : String) (limited : keyword ∈ limits) := value_of_free free limited
  simp [Check.numberVerdicts, Check.multipleOf, Check.minimum, Check.maximum,
    Check.exclusiveMinimum, Check.exclusiveMaximum, Json.isNumber, free "multipleOf" (by decide),
    hvalue "minimum" (by decide), hvalue "maximum" (by decide),
    hvalue "exclusiveMinimum" (by decide), hvalue "exclusiveMaximum" (by decide)]

theorem textVerdicts_free (free : ∀ keyword ∈ limits, node.member? keyword = none)
    {options : Options} (unread : options.validateFormat = .bool false) (s : String) :
    ∀ verdict ∈ Check.textVerdicts options node s, verdict = .ok none := by
  intro verdict hverdict
  rcases List.mem_append.mp hverdict with hmem | hmem
  · have hformat : Check.format options node s = .ok none := by
      unfold Check.format
      cases node.member? "format" with
      | none => rfl
      | some format =>
        rw [unread]
        rfl
    have hpattern : Check.pattern node s = .ok none := by
      rw [Check.pattern, free "pattern" (by decide)]
    rw [hformat, hpattern] at hmem
    simpa using hmem
  · exact limitVerdicts_free (value_of_free free (by decide)) (value_of_free free (by decide)) _
      verdict hmem

theorem passes_array (free : ∀ keyword ∈ limits, node.member? keyword = none)
    {options : Options} :
    (Check.array options node value [] path).Passes answers scope := by
  refine Plan.Passes.both (Plan.passes_settle fun verdict hverdict => ?_) ?_
  · rcases List.mem_append.mp hverdict with hmem | hmem
    · exact limitVerdicts_free (value_of_free free (by decide)) (value_of_free free (by decide)) _
        verdict hmem
    · simpa [Check.uniqueItems, Check.hasRepeat] using hmem
  · have hitems : Check.items options node [] path = .clean := by
      unfold Check.items
      cases node.member? "items" with
      | none => exact ite_self _
      | some items => exact ite_self _
    rw [hitems]
    exact Plan.passes_clean

end

theorem keys_eq_of_paired {paired : Node → Json → Prop} {properties : List (String × Node)}
    {members : Members} (h : List.Forall₂ (Paired paired) properties members) :
    Members.keys members = properties.map Prod.fst := by
  induction h with
  | nil => rfl
  | cons hentry _ ih => exact congrArg₂ _ hentry.1 ih

/-- Each declared property is there, and nothing else. -/
theorem passes_object (free : ∀ keyword ∈ limits, node.member? keyword = none)
    (distinct : ((Check.properties node).map Prod.fst).Nodup)
    (required : ∀ name ∈ Check.namesIn (node.value "required"),
      name ∈ (Check.properties node).map Prod.fst)
    {members : Members}
    (bound : List.Forall₂ (Paired (Conforms table root active)) (Check.properties node)
      members) {steps : Nat} {scope : Scope} {path : Path}
    (stands : Stands table root limit active scope) (fits : (Json.obj members).Fits path limit) :
    (Check.object scope.options node members path).Passes (Check.answer .chain steps) scope := by
  have hkeys := keys_eq_of_paired bound
  have homits (name : String) : scope.options.omits name = false := by
    rw [Options.omits, stands.options]
    rfl
  have hkept : Check.kept scope.options members = members :=
    List.filter_eq_self.mpr fun member _ => congrArg not (homits member.1)
  have hpatterns : Check.patternProperties? node = none := by
    rw [Check.patternProperties?, free "patternProperties" (by decide)]
  have hdependencies : Check.declaredDependencies node = [] := by
    rw [Check.declaredDependencies, free "dependencies" (by decide)]
    rfl
  have hrequired : ∀ verdict ∈ Check.required scope.options node members, verdict = .ok none := by
    refine List.forall_mem_map.mpr fun name hname => ?_
    have hdeclared : name ∈ Members.keys members := by
      rw [hkeys]
      rcases (Check.mem_markedNames _ _ _).mp hname with hlisted | ⟨own, hown, _⟩
      · exact required name hlisted
      · exact List.mem_map_of_mem hown
    have hhas : Members.has members name = true := by
      simpa [Members.has, Members.keys] using hdeclared
    rw [hhas]
    rfl
  have hproperty : ∀ member ∈ members, (Check.property scope.options node members none path
      member.1 member.2).Passes (Check.answer .chain steps) scope := by
    rintro ⟨name, value⟩ hmember
    have hlookup := Paired.lookup bound name
    rw [Members.lookup_of_mem (hkeys ▸ distinct) hmember] at hlookup
    cases hproperty : (Check.properties node).lookup name with
    | none =>
      rw [hproperty] at hlookup
      cases hlookup
    | some own =>
      rw [hproperty] at hlookup
      cases hlookup with
      | some conforms =>
        rw [Check.property, hproperty]
        exact conforms limit steps scope _ stands (fits.onward (.member hmember))
  unfold Check.object
  rw [hkept, hpatterns, Check.dependencies, hdependencies]
  refine Plan.passes_all (List.forall_mem_cons.mpr ⟨?_, List.forall_mem_cons.mpr ⟨?_,
    List.forall_mem_cons.mpr ⟨?_, List.forall_mem_singleton.mpr ?_⟩⟩⟩)
  · refine Plan.passes_settle fun verdict hverdict => ?_
    rcases List.mem_append.mp hverdict with hlimit | hrequire
    · exact limitVerdicts_free (value_of_free free (by decide)) (value_of_free free (by decide)) _
        verdict hlimit
    · exact hrequired verdict hrequire
  · exact Plan.passes_clean
  · exact Plan.passes_clean
  · exact Plan.passes_all (List.forall_mem_map.mpr hproperty)

theorem Names.obj {first : Node} (names : Names node first) :
    ∃ members, node.json = .obj members := by
  obtain ⟨type, htype, _⟩ := names
  unfold typeOf? at htype
  cases hdeclared : node.member? "type" with
  | some declared => exact Check.obj_of_member? hdeclared
  | none =>
    rw [hdeclared] at htype
    cases hjson : node.json with
    | obj members => exact ⟨members, rfl⟩
    | _ =>
      rw [hjson] at htype
      cases htype

theorem shape_of_names (plain : Plain root node "type") {first : Node} (names : Names node first)
    {type : SchemaType} (h : first.json = .str type.name) :
    shape node = if type = .object then .properties (Check.properties node)
      else .value (ofTypeName type.name) := by
  obtain ⟨declared, hdeclared, hfirst⟩ := names
  have hhead : (if declared.json.isArray then declared.items.head? else some declared) =
      some first := by
    rcases hfirst with ⟨hsingle, rfl⟩ | ⟨rest, hitems⟩
    · rw [hsingle]
      rfl
    · rw [isArray_of_items hitems, hitems]
      rfl
  rw [plain.shape_type hdeclared, ofType, hhead]
  simp only [h]
  cases type <;> rfl

theorem type_of_name (type : SchemaType) {options : Options} {path : Path} :
    Check.type options node value path (.str type.name) =
      Check.ofType options node value path type := by
  cases type <;> rfl

/-- Of several types the first is tried first. -/
theorem Plain.passes_union (plain : Plain root node "type") {type first : Node} {rest : List Node}
    (htype : typeOf? node = some type) (hitems : type.items = first :: rest) {options : Options}
    {top : Node} {path : Path} {answers : Answers} {scope : Scope}
    (passes : (Check.unionMember options node value path first).Passes answers scope) :
    (Check.governing options top node value path).Passes answers scope := by
  have harray := isArray_of_items hitems
  have hmeant : type.isNull = false := by
    obtain ⟨items, hjson⟩ := Json.eq_arr_of_isArray harray
    rw [Node.isNull, hjson]
  rw [plain.governing_type (governingType?_of_typeOf? htype hmeant), if_pos harray, Check.union,
    hitems]
  exact passes.firstClean _ _

theorem Plain.passes_names (plain : Plain root node "type") {first : Node}
    (names : Names node first) {type : SchemaType} (h : first.json = .str type.name)
    {options : Options} {top : Node} {path : Path} {answers : Answers} {scope : Scope}
    (passes : (Check.ofType options node value path type).Passes answers scope) :
    (Check.governing options top node value path).Passes answers scope := by
  obtain ⟨declared, hdeclared, hfirst⟩ := names
  rcases hfirst with ⟨hsingle, rfl⟩ | ⟨rest, hitems⟩
  · have hmeant : first.isNull = false := by rw [Node.isNull, h]
    rw [plain.governing_type (governingType?_of_typeOf? hdeclared hmeant), hsingle, h,
      type_of_name]
    exact passes
  · refine plain.passes_union hdeclared hitems ?_
    rw [Check.unionMember, h, type_of_name]
    exact passes

theorem shape_of_union (plain : Plain root node "type") {type first : Node} {rest : List Node}
    (htype : typeOf? node = some type) (hitems : type.items = first :: rest)
    (object : first.json.isObject) : shape node = .schema first := by
  obtain ⟨members, hjson⟩ := Json.eq_obj_of_isObject object
  rw [plain.shape_type htype, ofType, isArray_of_items hitems, hitems]
  simp only [if_true, List.head?_cons, hjson]

section

variable (absorbed : table.adds (Check.declared root) = false)

include absorbed

/-- A node with a governing form conforms if what governs it does. -/
theorem Plain.conforms {keyword : String} (plain : Plain root node keyword)
    (object : ∃ members, node.json = .obj members)
    (passes : ∀ limit steps scope path, Stands table root limit active scope →
      value.Fits path limit → (Check.governing scope.options scope.root node value path).Passes
        (Check.answer .chain steps) scope) :
    Conforms table root active node value := by
  obtain ⟨members, hjson⟩ := object
  refine .of_node (declared_of_ownless absorbed plain.ownless)
    fun limit steps scope path stands fits => ?_
  rw [Check.node_of_obj hjson]
  exact passes limit steps scope path stands fits

theorem conforms_enumeration (plain : Plain root node "enum")
    {members : Node} {first : Json} {rest : List Json} (h : node.member? "enum" = some members)
    (hitems : members.json = .arr (first :: rest)) :
    Conforms table root active node first := by
  refine plain.conforms absorbed (Check.obj_of_member? h)
    fun limit steps scope path stands fits => ?_
  have hsame : first.same first = true := beq_self_eq_true _
  rw [Plain.governing_enumeration h, Check.enumeration, hitems]
  simp only [List.any_cons, hsame, Bool.true_or, if_true]
  exact Plan.passes_clean

theorem conforms_anyOf (plain : Plain root node "anyOf") {members first : Node} {rest : List Node}
    (h : node.member? "anyOf" = some members) (hitems : members.items = first :: rest)
    (conforms : Conforms table root active first value) :
    Conforms table root active node value := by
  refine plain.conforms absorbed (Check.obj_of_member? h)
    fun limit steps scope path stands fits => ?_
  have hfirst : (Plan.enter first value path).Passes (Check.answer .chain steps) scope :=
    conforms limit steps scope path stands fits
  rw [plain.governing_anyOf h, Check.anyOf, if_pos (isArray_of_items hitems), hitems, Check.each,
    List.map_cons]
  exact hfirst.firstClean _ _

theorem conforms_single {keyword : String} (either : keyword ∈ ["allOf", "oneOf"])
    (plain : Plain root node keyword) {members only : Node}
    (h : node.member? keyword = some members) (hitems : members.items = [only])
    (conforms : Conforms table root active only value) :
    Conforms table root active node value := by
  refine plain.conforms absorbed (Check.obj_of_member? h)
    fun limit steps scope path stands fits => ?_
  have honly : (Plan.enter only value path).Passes (Check.answer .chain steps) scope :=
    conforms limit steps scope path stands fits
  rcases List.mem_cons.mp either with rfl | either
  · rw [plain.governing_allOf h, Check.allOf, if_pos (isArray_of_items hitems), hitems]
    exact honly.both Plan.passes_clean
  · cases List.mem_singleton.mp either
    rw [plain.governing_oneOf h, Check.oneOf, if_pos (isArray_of_items hitems), hitems]
    exact honly.probe Plan.passes_clean

theorem conforms_reference (plain : Plain root node "$ref") {ref target : Node} {name : String}
    (h : node.member? "$ref" = some ref) (hname : ref.json = .str name)
    (resolved : resolve? (.str name) table root = .ok (some target)) (fresh : name ∉ active)
    (conforms : Conforms table root (name :: active) target value) :
    Conforms table root active node value := by
  refine plain.conforms absorbed (Check.obj_of_member? h)
    fun limit steps scope path stands fits => ?_
  obtain ⟨next, hfollow, hnext⟩ := stands.follow fresh target path
  have hplan : Check.reference scope.options scope.root node ref.json value path =
      .follow ⟨name, target, path⟩ value := by
    rw [Check.reference, stands.options, stands.root, hname, resolved]
    rfl
  rw [plain.governing_reference h, hplan, Plan.Passes, Plan.answer_follow_of_ok hfollow]
  exact conforms limit steps next path hnext fits

/-- The plain value of a type meets it where nothing else is asked for. -/
theorem conforms_ofTypeName (plain : Plain root node "type")
    {first : Node} (names : Names node first) {type : SchemaType} (h : first.json = .str type.name)
    (partless : type ≠ .object) (free : ∀ keyword ∈ limits, node.member? keyword = none) :
    Conforms table root active node (ofTypeName type.name) := by
  refine plain.conforms absorbed names.obj fun limit steps scope path stands fits => ?_
  refine plain.passes_names names h ?_
  cases type with
  | object => exact absurd rfl partless
  | boolean => exact Plan.passes_clean
  | null => exact Plan.passes_clean
  | any => exact Plan.passes_clean
  | number => exact Plan.passes_settle (numberVerdicts_free free)
  | integer => exact Plan.passes_settle (numberVerdicts_free free)
  | string =>
    exact Plan.passes_settle (textVerdicts_free free (by rw [stands.options]; rfl) "")
  | array => exact passes_array free

theorem conforms_properties (plain : Plain root node "type")
    {first : Node} (names : Names node first) (h : first.json = .str SchemaType.object.name)
    (free : ∀ keyword ∈ limits, node.member? keyword = none)
    (distinct : ((Check.properties node).map Prod.fst).Nodup)
    (required : ∀ name ∈ Check.namesIn (node.value "required"),
      name ∈ (Check.properties node).map Prod.fst)
    {members : Members}
    (bound : List.Forall₂ (Paired (Conforms table root active)) (Check.properties node)
      members) : Conforms table root active node (.obj members) :=
  plain.conforms absorbed names.obj fun _ _ _ _ stands fits =>
    plain.passes_names names h (passes_object free distinct required bound stands fits)

theorem conforms_union (plain : Plain root node "type")
    {type first : Node} {rest : List Node}
    (htype : typeOf? node = some type) (hitems : type.items = first :: rest)
    (object : first.json.isObject) (conforms : Conforms table root active first value) :
    Conforms table root active node value := by
  refine plain.conforms absorbed (Names.obj ⟨type, htype, .inr ⟨rest, hitems⟩⟩)
    fun limit steps scope path stands fits => plain.passes_union htype hitems ?_
  rw [Check.unionMember, if_pos object]
  exact conforms limit steps scope path stands fits

end

theorem conforms_free (free : node.json = .null ∨ node.json = .obj []) :
    Conforms table root active node value := by
  have hdeclared : Check.declared node = [] := by
    unfold Check.declared Node.member?
    rcases free with hjson | hjson <;> (rw [hjson]; rfl)
  have hplan (options : Options) (top : Node) (path : Path) :
      Check.node options top node value path = .clean := by
    unfold Check.node
    rcases free with hjson | hjson <;> rw [hjson]
  refine .of_node (by rw [hdeclared]; rfl) fun limit steps scope path stands fits => ?_
  rw [hplan]
  exact Plan.passes_clean

theorem shape_of_free (free : node.json = .null ∨ node.json = .obj []) :
    shape node = .value .null := by
  rcases free with hjson | hjson
  · exact shape_of_not_object (by rw [hjson]; rfl)
  · simp [shape, Node.member?, Node.value, hjson, combinators, typeOf?, inferredType?, Members.has]

theorem properties_distinct (proper : node.json.isProper) :
    ((Check.properties node).map Prod.fst).Nodup := by
  unfold Check.properties
  cases hproperties : node.member? "properties" with
  | none => exact List.nodup_nil
  | some properties =>
    have hproper := (Node.beneath_of_member? hproperties).inside.isProper proper
    simp only [Option.map_some, Option.getD_some]
    unfold Node.members
    cases hjson : properties.json with
    | obj members =>
      rw [hjson] at hproper
      have hkeys := ((Json.isProper_obj_iff members).mp hproper).1
      simpa [Members.keys, Function.comp_def] using hkeys
    | _ => exact List.nodup_nil

theorem not_followed {name : String} (fresh : name ∉ active) :
    (active.map Json.str).any (·.text == (Json.str name).text) = false := by
  refine List.any_eq_false.mpr fun ref href hsame => ?_
  obtain ⟨other, hother, rfl⟩ := List.mem_map.mp href
  cases Json.text_injective (eq_of_beq hsame)
  exact fresh hother

theorem Form.null_or_obj (form : Form table root inside node) :
    node.json = .null ∨ ∃ members, node.json = .obj members := by
  cases form with
  | null hjson => exact .inl hjson
  | empty hjson => exact .inr ⟨[], hjson⟩
  | enumeration _ hmember => exact .inr (Check.obj_of_member? hmember)
  | anyOf _ hmember => exact .inr (Check.obj_of_member? hmember)
  | single _ _ hmember => exact .inr (Check.obj_of_member? hmember)
  | reference _ hmember => exact .inr (Check.obj_of_member? hmember)
  | typed _ names => exact .inr names.obj
  | union _ htype hitems => exact .inr (Names.obj ⟨_, htype, .inr ⟨_, hitems⟩⟩)

/-- By induction on the steps of creation: what it makes up for a node conforms to the node,
as what it makes up for the nodes that the node turns on conforms to them. -/
theorem create_conforms (forms : ∀ node, inside node → Form table root inside node)
    (absorbed : table.adds (Check.declared root) = false)
    (properly : ∀ ref target, resolve? ref table root = .ok (some target) → target.json.isProper)
    (steps : Nat) (h : inside node) (proper : node.json.isProper)
    (straight : Along table root Fresh active node) :
    Yields (Conforms table root active node)
      (create table root steps (active.map .str) node) := by
  induction steps generalizing active node with
  | zero => exact yields_exhausted
  | succ steps ih =>
    have honward {child : Node} (hshape : shape node = .schema child) (hchild : inside child) :
        Yields (Conforms table root active child)
          (create table root (steps + 1) (active.map .str) node) := by
      have hbeneath := shape_within node
      rw [hshape] at hbeneath
      rw [create_of_schema hshape]
      exact ih hchild (hbeneath.inside.isProper proper) ((along_schema_iff hshape).mp straight).2
    cases forms node h with
    | null hjson =>
      rw [create_of_value (shape_of_free (.inl hjson))]
      exact yields_ok (conforms_free (.inl hjson))
    | empty hjson =>
      rw [create_of_value (shape_of_free (.inr hjson))]
      exact yields_ok (conforms_free (.inr hjson))
    | enumeration plain hmember hitems =>
      have hshape := plain.shape_eq (by decide) hmember fun _ => by rw [hitems]; rfl
      rw [governedShape, if_pos rfl, hitems] at hshape
      rw [create_of_value hshape]
      exact yields_ok (conforms_enumeration absorbed plain hmember hitems)
    | anyOf plain hmember hitems hfirst =>
      have hshape := plain.shape_of_members (by decide) hmember hitems
      exact (honward hshape hfirst).imp fun _ => conforms_anyOf absorbed plain hmember hitems
    | @single keyword _ _ either plain hmember hitems honly =>
      have hcombines : ∀ keyword ∈ ["allOf", "oneOf"], keyword ∈ ["allOf", "anyOf", "oneOf"] := by
        decide
      have hshape := plain.shape_of_members (hcombines keyword either) hmember hitems
      exact (honward hshape honly).imp fun _ =>
        conforms_single absorbed either plain hmember hitems
    | @reference ref target name plain hmember hname hresolved htarget =>
      have hshape := plain.shape_eq (by decide) hmember fun h => absurd h (by decide)
      rw [governedShape, if_neg (by decide), if_pos rfl, hname] at hshape
      have hfresh : name ∉ active := straight.here name hshape
      rw [create_of_resolved hshape hresolved, not_followed hfresh,
        if_neg Bool.false_ne_true]
      have hconforms : Yields (Conforms table root (name :: active) target)
          (create table root steps (.str name :: active.map .str) target) :=
        ih htarget (properly _ _ hresolved) ((along_reference_iff hshape hresolved).mp straight).2
      exact hconforms.imp fun _ => conforms_reference absorbed plain hmember hname hresolved hfresh
    | @typed first type plain names hname free hproperties required =>
      have hshape := shape_of_names plain names hname
      by_cases hobject : type = .object
      · subst hobject
        rw [if_pos rfl] at hshape
        have hwithin := properties_within node
        rw [create_of_properties hshape]
        refine (mapM_yields fun member hmember => ?_).map fun members hbound =>
          conforms_properties absorbed plain names hname free (properties_distinct proper) required
            hbound
        have honward := ((along_properties_iff hshape).mp straight).2 member hmember
        exact (ih (hproperties member hmember) ((hwithin member hmember).inside.isProper proper)
          honward).map fun _ hvalue => ⟨rfl, hvalue⟩
      · rw [if_neg hobject] at hshape
        rw [create_of_value hshape]
        exact yields_ok (conforms_ofTypeName absorbed plain names hname hobject free)
    | union plain htype hitems hobject hfirst =>
      have hshape := shape_of_union plain htype hitems hobject
      exact (honward hshape hfirst).imp fun _ =>
        conforms_union absorbed plain htype hitems hobject

theorem isProper_of_resolve? {ref : Json} (hroot : root.json.isProper)
    (htable : ∀ name node, (name, node) ∈ table → node.json.isProper)
    (h : resolve? ref table root = .ok (some target)) : target.json.isProper := by
  rcases resolve?_found h with ⟨name, hmem⟩ | ⟨top, htop, hinside⟩ | ⟨s, htext⟩
  · exact htable name target hmem
  · cases htop
    exact hinside.isProper hroot
  · rw [htext]
    rfl

theorem isProper_of_table? {definitions : Node} (properly : definitions.json.isProper)
    (readable : Options.table? definitions = .ok table) (name : String) (node : Node)
    (h : (name, node) ∈ table) : node.json.isProper := by
  unfold Options.table? at readable
  split at readable <;> cases readable
  · cases h
  · exact (Node.beneath_of_mem_members h).inside.isProper properly

theorem isProper_of_tableOf {schema : Json} {definitions : Definitions} (proper : schema.isProper)
    (properly : ∀ name node, (name, node) ∈ definitions → node.json.isProper) (name : String)
    (node : Node) (h : (name, node) ∈ tableOf schema definitions) : node.json.isProper := by
  rcases List.mem_append.mp h with hgiven | hown
  · exact properly name node hgiven
  · have hroot : (Node.document .schema schema).json.isProper := proper
    exact (Check.beneath_of_mem_table (List.mem_of_mem_filter hown)).inside.isProper hroot

/-- Settings for definitions and a limit on nesting. -/
def checking (definitions limit : Node) : Given :=
  .settings [("definitions", .given definitions), ("maxDepth", .given limit)]

theorem options_checking {definitions : Node} {table : Definitions}
    (readable : Options.table? definitions = .ok table) (limit : Node) :
    (checking definitions limit).options =
      .ok { Options.standard with definitions := table, maxDepth := limit.json } := by
  have hnormal : Options.normalize
      [("definitions", .given definitions), ("maxDepth", .given limit)] =
      .ok [(.definitions, .given definitions), (.maxDepth, .given limit)] := rfl
  have htable : Options.tableFor? [(.definitions, .given definitions), (.maxDepth, .given limit)]
      Options.standard.definitions = .ok table := readable
  rw [checking, Given.options, Options.merge, hnormal]
  change Options.standard.apply
    [(.definitions, .given definitions), (.maxDepth, .given limit)] = _
  rw [Options.apply, htable]
  rfl

/-- A value that conforms to the root of a schema is valid, whatever the limit on nesting is, as
long as the value is within it. -/
theorem Conforms.valid {schema value : Json} {definitions : Node} {table : Definitions}
    (readable : Options.table? definitions = .ok table)
    (own : (rootDefinitions? (.document .schema schema)).isOk)
    (object : schema = .null ∨ ∃ members, schema = .obj members)
    (conforms : Conforms (tableOf schema table) (.document .schema schema) []
      (.document .schema schema) value)
    {limit : Node} (fits : value.Fits [] limit.json) (heard : List Notice) :
    (validate schema value (checking definitions limit)).on heard = (.ok [], heard) := by
  have hoptions := options_checking readable limit
  rcases object with rfl | ⟨members, rfl⟩
  · rfl
  by_cases hempty : members = []
  · subst hempty
    rw [validate, validateWith, opening?_nil hoptions]
    rfl
  let root := Node.document .schema (.obj members)
  let opened := ({ Options.standard with
    definitions := table, maxDepth := limit.json } : Options).withDefinitions (Check.declared root)
  have hopening : opening? (.obj members) (checking definitions limit) = .ok (some opened) := by
    rw [rootDefinitions?_obj] at own
    cases hdeclare : Members.declareTable members with
    | true => rw [opening?_of_ne_nil hoptions hempty, hdeclare, if_pos rfl]
    | false =>
      rw [hdeclare] at own
      cases own
  have hends := answerWith_ends Guard.chain_wanes (.obj members) value (checking definitions limit)
  rw [answerWith_of_opening hopening] at hends
  obtain ⟨_, hanswer, rfl⟩ := (conforms limit.json (enough (.obj members) value opened)
    (.start opened root) [] ⟨rfl, rfl, List.forall_mem_nil _⟩ fits).of_ends hends
  obtain ⟨told, htold⟩ := Check.descend_tells Guard.chain_ignoresHook
    (enough (.obj members) value opened) (.start opened root) 0 root value []
  have hrun := htold.on_eq none heard
  rw [hearing_none, hanswer] at hrun
  rw [validate, validateWith, hopening]
  exact hrun

/-- A schema with a reference to a definition of its own and one to a definition that is given. -/
def orderSchema : Json :=
  .obj [
    ("definitions", .obj [("name", .obj [("enum", .arr [.str "a", .int 1])])]),
    ("properties", .obj [
      ("count", .obj [("$ref", .str "count")]),
      ("name", .obj [("oneOf", .arr [.obj [("$ref", .str "#/definitions/name")]]),
        ("required", .bool true)])]),
    ("required", .arr [.str "count"])]

def orderDefinitions : Node :=
  .document .options (.obj [("count", .obj [("type", .arr [.str "integer", .str "null"])])])

def orderRoot : Node := .document .schema orderSchema

def orderTable : Definitions := tableOf orderSchema orderDefinitions.members

/-- The definitions in force, and the nodes on the way to them. -/
def orderNodes : List Node :=
  orderRoot :: orderTable.map (·.2) ++ (Check.properties orderRoot).map (·.2) ++
    ((Check.properties orderRoot).filterMap (·.2.member? "oneOf")).flatMap Node.items

theorem order_fragment : Fragment orderTable orderRoot orderRoot := by
  have hplain {node : Node} {keyword : String} (undefaulted : (node.member? "default").isNone)
      (ownless : node = orderRoot ∨ (node.member? "definitions").isNone)
      (alone : ∀ other ∈ Check.precedence, other ≠ keyword → (node.member? other).isNone) :
      Plain orderRoot node keyword := by
    simp only [Option.isNone_iff_eq_none] at undefaulted ownless alone
    exact ⟨undefaulted, ownless, alone⟩
  have hfree {node : Node} (free : ∀ keyword ∈ limits, (node.member? keyword).isNone) :
      ∀ keyword ∈ limits, node.member? keyword = none :=
    fun keyword limited => Option.isNone_iff_eq_none.mp (free keyword limited)
  refine ⟨(· ∈ orderNodes), ?_, List.mem_cons_self⟩
  refine List.forall_mem_cons.mpr ⟨?_, List.forall_mem_cons.mpr ⟨?_, List.forall_mem_cons.mpr ⟨?_,
    List.forall_mem_cons.mpr ⟨?_, List.forall_mem_cons.mpr ⟨?_, List.forall_mem_cons.mpr ⟨?_,
      List.forall_mem_nil _⟩⟩⟩⟩⟩⟩
  · exact .typed (hplain rfl (.inl rfl) (by decide)) ⟨_, rfl, .inl ⟨rfl, rfl⟩⟩
      (show Json.str "object" = .str SchemaType.object.name from rfl) (hfree (by decide))
      (fun property hproperty => List.mem_append_left _
        (List.mem_append_right _ (List.mem_map_of_mem hproperty))) (by decide)
  · exact .typed (hplain rfl (.inr rfl) (by decide)) ⟨_, rfl, .inr ⟨_, rfl⟩⟩
      (show Json.str "integer" = .str SchemaType.integer.name from rfl) (hfree (by decide))
      nofun nofun
  · exact .enumeration (hplain rfl (.inr rfl) (by decide)) rfl rfl
  · exact .reference (hplain rfl (.inr rfl) (by decide)) rfl rfl rfl (.tail _ (.head _))
  · exact .single (show "oneOf" ∈ ["allOf", "oneOf"] by decide)
      (hplain rfl (.inr rfl) (by decide)) rfl rfl
      (List.mem_append_right _ (List.mem_singleton.mpr rfl))
  · exact .reference (hplain rfl (.inr rfl) (by decide)) rfl rfl rfl (.tail _ (.tail _ (.head _)))

theorem order_straight : Along orderTable orderRoot Fresh [] orderRoot := by
  have hfree {following : List String} {node : Node} {json : Json} (h : shape node = .value json) :
      Along orderTable orderRoot Fresh following node :=
    along_of_value h fun name hshape => nomatch h.symm.trans hshape
  refine (along_properties_iff rfl).mpr ⟨nofun, ?_⟩
  refine List.forall_mem_cons.mpr ⟨?_, List.forall_mem_singleton.mpr ?_⟩
  · exact (along_reference_iff rfl rfl).mpr ⟨nofun, hfree rfl⟩
  · exact (along_schema_iff rfl).mpr ⟨nofun, (along_reference_iff rfl rfl).mpr ⟨nofun, hfree rfl⟩⟩

end Placeholder

end JsonSchema
