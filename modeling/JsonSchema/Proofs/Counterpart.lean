import JsonSchema.Proofs.Parallel

/-! When the checks of two nodes go in step: where the values under each keyword correspond
in the way in which that keyword holds schemas, and the values that are checked differ in
nothing that is looked at. -/
namespace JsonSchema

/-- How schemas stand in the value of a keyword: not at all, by name, in a list, in a list
or alone, by name or alone, or by name and then in a list or alone. -/
inductive Position where
  | data
  | table
  | list
  | either
  | additional
  | dependencies

namespace Position

def of : String → Position
  | "properties" | "patternProperties" => .table
  | "allOf" | "anyOf" | "oneOf" | "type" => .list
  | "items" | "additionalItems" => .either
  | "additionalProperties" => .additional
  | "dependencies" => .dependencies
  | _ => .data

end Position

/-- The schema keywords that say nothing about values. -/
def annotationKeywords : List String :=
  ["title", "description", "default"]

/-- Whether the check of a node looks at a keyword. Definitions come into force before it. -/
def isLookedAt (keyword : String) : Bool :=
  schemaKeywords.contains keyword && !("definitions" :: annotationKeywords).contains keyword

/-- Whether the check of a value against a type looks at a keyword on its own: any but that of the
type, and but that of the names that are required, which properties say of themselves as well. -/
def isConstraint (keyword : String) : Bool :=
  isLookedAt keyword && !List.contains ["type", "required"] keyword

theorem isLookedAt_of_isConstraint {keyword : String} (constraint : isConstraint keyword) :
    isLookedAt keyword :=
  (Bool.and_eq_true_iff.mp constraint).1

theorem ne_definitions_of_isLookedAt {keyword : String} (looked : isLookedAt keyword) :
    keyword ≠ "definitions" := by
  rintro rfl
  cases looked

/-- Schemas by name, where a schema may stand as well. -/
def isTable (json : Json) : Bool :=
  json.isObject && !isSchemaLike json

theorem none_or_some_of_rel {α β : Type} {rel : α → β → Prop} {found : Option α}
    {found' : Option β} (h : Option.Rel rel found found') :
    (found = none ∧ found' = none) ∨ ∃ a b, found = some a ∧ found' = some b ∧ rel a b := by
  cases h with
  | none => exact .inl ⟨rfl, rfl⟩
  | some hrel => exact .inr ⟨_, _, rfl, rfl, hrel⟩

/-- Entries of one name. -/
def Paired {α β : Type} (paired : α → β → Prop) (entry : String × α) (entry' : String × β) :
    Prop :=
  entry'.1 = entry.1 ∧ paired entry.2 entry'.2

theorem Paired.lookup {α β : Type} {paired : α → β → Prop} {entries : List (String × α)}
    {entries' : List (String × β)} (h : List.Forall₂ (Paired paired) entries entries')
    (name : String) : Option.Rel paired (entries.lookup name) (entries'.lookup name) := by
  induction h with
  | nil => exact .none
  | @cons entry entry' _ _ hentry _ ih =>
    obtain ⟨key, a⟩ := entry
    obtain ⟨key', b⟩ := entry'
    obtain ⟨rfl, hpaired⟩ := hentry
    rw [List.lookup_cons, List.lookup_cons]
    cases name == key' with
    | true => exact .some hpaired
    | false => exact ih

theorem Paired.has_eq {paired : Json → Json → Prop} {members members' : Members}
    (h : List.Forall₂ (Paired paired) members members') (name : String) :
    Members.has members' name = Members.has members name := by
  have hlookup := Paired.lookup h name
  rw [Members.has_eq_isSome_lookup, Members.has_eq_isSome_lookup]
  generalize members.lookup name = found at *
  generalize members'.lookup name = found' at *
  cases hlookup <;> rfl

theorem Json.eq_obj_of_isObject {json : Json} (h : json.isObject) :
    ∃ members, json = .obj members := by
  cases json <;> cases h
  exact ⟨_, rfl⟩

theorem Json.eq_arr_of_isArray {json : Json} (h : json.isArray) : ∃ items, json = .arr items := by
  cases json <;> cases h
  exact ⟨_, rfl⟩

namespace Node

variable {nodes nodes' : Node → Node → Prop} {node node' : Node}

theorem lookup_members (node : Node) (name : String) :
    node.members.lookup name = node.member? name := by
  unfold members member?
  cases node.json with
  | obj members =>
    dsimp only
    induction members with
    | nil => rfl
    | cons member rest ih =>
      rw [List.map_cons, List.lookup_cons, List.lookup_cons, ih]
      cases hname : name == member.1 with
      | true =>
        rw [beq_iff_eq] at hname
        rw [hname]
        rfl
      | false => rfl
  | _ => rfl

/-- Two arrays of paired schemas. -/
def PairsItems (nodes : Node → Node → Prop) (node node' : Node) : Prop :=
  node.json.isArray ∧ node'.json.isArray ∧ List.Forall₂ nodes node.items node'.items

/-- Two arrays of paired schemas, or two paired schemas. -/
def PairsEither (nodes : Node → Node → Prop) (node node' : Node) : Prop :=
  node.PairsItems nodes node' ∨
    node.json.isArray = false ∧ node'.json.isArray = false ∧ nodes node node'

/-- Two tables of paired schemas, or two paired schemas. -/
def PairsAdditional (nodes : Node → Node → Prop) (node node' : Node) : Prop :=
  isTable node.json ∧ isTable node'.json ∧
      List.Forall₂ (Paired nodes) node.members node'.members ∨
    isTable node.json = false ∧ isTable node'.json = false ∧ nodes node node'

theorem PairsEither.mono (h : node.PairsEither nodes node')
    (le : ∀ child child', nodes child child' → nodes' child child') :
    node.PairsEither nodes' node' := by
  rcases h with ⟨harray, harray', hitems⟩ | ⟨harray, harray', hnode⟩
  · exact .inl ⟨harray, harray', hitems.imp le⟩
  · exact .inr ⟨harray, harray', le node node' hnode⟩

theorem PairsAdditional.mono (h : node.PairsAdditional nodes node')
    (le : ∀ child child', nodes child child' → nodes' child child') :
    node.PairsAdditional nodes' node' := by
  rcases h with ⟨htable, htable', hentries⟩ | ⟨htable, htable', hnode⟩
  · exact .inl ⟨htable, htable', hentries.imp fun entry entry' hentry =>
      ⟨hentry.1, le entry.2 entry'.2 hentry.2⟩⟩
  · exact .inr ⟨htable, htable', le node node' hnode⟩

/-- Nodes that can stand for each other where they are looked at before they are entered. -/
structure Akin (node node' : Node) : Prop where
  isObject : node'.json.isObject = node.json.isObject
  atom : node.json.isObject = false → node'.json = node.json

theorem Akin.same_or_objects {node node' : Node} (akin : node.Akin node') :
    node'.json = node.json ∨
      ∃ members members', node.json = .obj members ∧ node'.json = .obj members' := by
  cases hobject : node.json.isObject with
  | false => exact .inl (akin.atom hobject)
  | true =>
    obtain ⟨members, hjson⟩ := Json.eq_obj_of_isObject hobject
    obtain ⟨members', hjson'⟩ := Json.eq_obj_of_isObject (akin.isObject.trans hobject)
    exact .inr ⟨members, members', hjson, hjson'⟩

theorem Akin.isNull_eq {node node' : Node} (akin : node.Akin node') :
    node'.isNull = node.isNull := by
  unfold isNull
  rcases akin.same_or_objects with hsame | ⟨members, members', hjson, hjson'⟩
  · rw [hsame]
  · rw [hjson, hjson']

end Node

/-- How the values of a keyword correspond. -/
def Position.Pairs (nodes : Node → Node → Prop) (position : Position) (node node' : Node) : Prop :=
  match position with
  | .data => node'.json = node.json
  | .table => node'.json.isObject = node.json.isObject ∧
      List.Forall₂ (Paired nodes) node.members node'.members
  | .list => node.PairsItems nodes node' ∨ node.json.isArray = false ∧ node'.json = node.json
  | .either => node.PairsEither nodes node'
  | .additional => node.PairsAdditional nodes node'
  | .dependencies => List.Forall₂ (Paired (Node.PairsEither nodes)) node.members node'.members

namespace Node

variable {nodes : Node → Node → Prop} {schema schema' : Node} {keyword : String}

/-- Data under a keyword is the same in both nodes, null if there is none. -/
theorem value_eq_of_rel (h : Option.Rel (Position.data.Pairs nodes) (schema.member? keyword)
    (schema'.member? keyword)) : schema'.value keyword = schema.value keyword := by
  rw [value_eq, value_eq]
  generalize schema.member? keyword = found at h
  generalize schema'.member? keyword = found' at h
  cases h with
  | none => rfl
  | some hjson => rw [Option.map_some, Option.map_some, show _ = _ from hjson]

/-- Schemas by name under a keyword are paired, and there are none in both nodes or in neither. -/
theorem members_of_rel (h : Option.Rel (Position.table.Pairs nodes) (schema.member? keyword)
    (schema'.member? keyword)) :
    List.Forall₂ (Paired nodes) (((schema.member? keyword).map members).getD [])
      (((schema'.member? keyword).map members).getD []) := by
  generalize schema.member? keyword = found at h
  generalize schema'.member? keyword = found' at h
  cases h with
  | none => exact .nil
  | some hpair => exact hpair.2

end Node

/-- What is paired with itself corresponds to itself in every position. -/
theorem Position.pairs_self {nodes : Node → Node → Prop} (self : ∀ node, nodes node node)
    (position : Position) (node : Node) : position.Pairs nodes node node := by
  have hitems : ∀ {paired : Node → Node → Prop}, (∀ node, paired node node) →
      List.Forall₂ paired node.items node.items := fun self => List.forall₂_same.mpr fun _ _ => self _
  have hmembers : ∀ {paired : Node → Node → Prop}, (∀ node, paired node node) →
      List.Forall₂ (Paired paired) node.members node.members :=
    fun self => List.forall₂_same.mpr fun _ _ => ⟨rfl, self _⟩
  have heither : ∀ node : Node, node.PairsEither nodes node := by
    intro node
    cases harray : node.json.isArray with
    | true => exact .inl ⟨harray, harray, List.forall₂_same.mpr fun _ _ => self _⟩
    | false => exact .inr ⟨harray, harray, self node⟩
  cases position with
  | data => rfl
  | table => exact ⟨rfl, hmembers self⟩
  | list =>
    cases harray : node.json.isArray with
    | true => exact .inl ⟨harray, harray, hitems self⟩
    | false => exact .inr ⟨harray, rfl⟩
  | either => exact heither node
  | additional =>
    cases htable : isTable node.json with
    | true => exact .inl ⟨htable, htable, hmembers self⟩
    | false => exact .inr ⟨htable, htable, self node⟩
  | dependencies => exact hmembers heither

/-- The members that are not hidden. -/
def Members.shown (hidden : String → Bool) (members : Members) : Members :=
  members.filter fun (name, _) => !hidden name

/-- Values of one shape, of which the parts that are not hidden are paired. -/
inductive Json.Resembles (hidden : String → Bool) (values : Json → Json → Prop) :
    Json → Json → Prop
  | scalar {value : Json} : value.isArray = false → value.isObject = false →
      Resembles hidden values value value
  | arr {elements elements' : List Json} : List.Forall₂ values elements elements' →
      Resembles hidden values (.arr elements) (.arr elements')
  | obj {members members' : Members} :
      List.Forall₂ (Paired values) (members.shown hidden) (members'.shown hidden) →
      Resembles hidden values (.obj members) (.obj members')

theorem Json.resembles_self (hidden : String → Bool) (value : Json) :
    value.Resembles hidden (fun value value' => value' = value) value := by
  cases value with
  | arr items => exact .arr (List.forall₂_same.mpr fun _ _ => rfl)
  | obj members => exact .obj (List.forall₂_same.mpr fun _ _ => ⟨rfl, rfl⟩)
  | _ => exact .scalar rfl rfl

namespace Check

/-- The names of properties that other properties need. -/
def neededNames (schema : Node) : List String :=
  (declaredDependencies schema).flatMap fun (_, declared) =>
    (targets declared).filterMap fun target =>
      match target.json with
      | .str name => some name
      | _ => none

/-- What is found where no member of a union matches. -/
def unionFinding (members : List Json) : Finding where
  kind := .unionTypeNotValid
  details := [("types", .str (", ".intercalate (members.map typeText)))]

theorem union_eq (options : Options) (schema members : Node) (value : Json) (path : Path) :
    union options schema members value path =
      .firstClean (.report schema value path (unionFinding (members.items.map Node.json)))
        (members.items.map (unionMember options schema value path)) := by
  rw [unionFinding, List.map_map]
  rfl

/-- Two nodes require the same names if they list the same and their properties, which are paired,
say the same of themselves. -/
theorem requiredNames_congr {nodes : Node → Node → Prop} {schema schema' : Node}
    (listed : Option.Rel (Position.data.Pairs nodes) (schema.member? "required")
      (schema'.member? "required"))
    (declared : Option.Rel (Position.table.Pairs nodes) (schema.member? "properties")
      (schema'.member? "properties"))
    (marked : ∀ node node', nodes node node' →
      (node'.value "required").isTrue = (node.value "required").isTrue) :
    requiredNames schema' = requiredNames schema := by
  have hmarked : ∀ {entries entries' : List (String × Node)},
      List.Forall₂ (Paired nodes) entries entries' → ∀ names,
        markedNames names entries' = markedNames names entries := by
    intro entries entries' hentries
    induction hentries with
    | nil => exact fun names => rfl
    | @cons entry entry' _ _ hentry _ ih =>
      intro names
      obtain ⟨name, node⟩ := entry
      obtain ⟨_, node'⟩ := entry'
      obtain ⟨rfl, hnode⟩ := hentry
      simp only [markedNames, marked _ _ hnode, ih]
  rw [requiredNames, requiredNames, Node.value_eq_of_rel listed]
  exact hmarked (Node.members_of_rel declared) _

/-- Everything that the check of a value against a type looks at in a node is paired with, or the
same as, what it looks at in another one. -/
structure Constrained (pairing : Pairing) (options options' : Options) (path : Path)
    (schema schema' : Node) : Prop where
  keywords (keyword : String) : isConstraint keyword →
    Option.Rel ((Position.of keyword).Pairs (pairing.nodes path)) (schema.member? keyword)
      (schema'.member? keyword)
  requiredNames : requiredNames schema' = requiredNames schema
  deeper {node node' : Node} (step : Step) : pairing.nodes path node node' →
    pairing.nodes (path ++ [step]) node node'
  akin {place : Path} {node node' : Node} : pairing.nodes place node node' → node.Akin node'
  resembles {value value' : Json} : pairing.values value value' →
    value.Resembles options.omits pairing.values value'
  /-- Where values are compared as a whole, the paired ones are the same. -/
  whole : (schema.member? "enum").isSome ∨ (schema.member? "uniqueItems").isSome →
    ∀ value value', pairing.values value value' → value' = value
  needed {members members' : Members} {name : String} :
    pairing.values (.obj members) (.obj members') → name ∈ neededNames schema →
    options.omits name → Members.has members' name = Members.has members name
  seen {value value' : Json} : pairing.values value value' → ∀ violation : Violation,
    pairing.view.notices (violation.notice schema.json value) (violation.notice schema'.json value')
  types {named named' : Node} {value value' : Json} : schema.member? "type" = some named →
    schema'.member? "type" = some named' → pairing.values value value' →
    List.Forall₂ (pairing.nodes path) named.items named'.items → pairing.view.notices
      (((unionFinding (named.items.map Node.json)).violation path).notice schema.json value)
      (((unionFinding (named'.items.map Node.json)).violation path).notice schema'.json value')
  omits : options'.omits = options.omits
  validateFormat : options'.validateFormat = options.validateFormat
  additionalItems (step : Step) : options.additionalItems.PairsEither
    (pairing.nodes (path ++ [step])) options'.additionalItems
  additionalProperties (step : Step) : options.additionalProperties.PairsAdditional
    (pairing.nodes (path ++ [step])) options'.additionalProperties

/-- Everything that the check of a node at a place looks at is paired with, or the same as, what
the check of another one looks at. -/
structure Corresponds (pairing : Pairing) (options options' : Options) (path : Path)
    (schema schema' : Node) : Prop extends Constrained pairing options options' path schema schema'
    where
  typed : Option.Rel (Position.list.Pairs (pairing.nodes path)) (schema.member? "type")
    (schema'.member? "type")

variable {pairing : Pairing} {options options' : Options} {root root' schema schema' : Node}
  {value value' : Json} {path : Path}

/-- What is no object is no schema, in both. -/
theorem atom_parallels (seen : ∀ violation : Violation, pairing.view.notices
    (violation.notice schema.json value) (violation.notice schema'.json value'))
    (atom : schema.json.isObject = false) (same : schema'.json = schema.json) :
    Plan.Parallels pairing (node options root schema value path)
      (node options' root' schema' value' path) := by
  unfold node
  rw [same]
  cases hjson : schema.json with
  | null => exact .clean
  | obj members =>
    rw [hjson] at atom
    cases atom
  | _ => exact .report (seen _)

theorem each_parallels (hvalue : pairing.values value value') {nodes nodes' : List Node}
    (hnodes : List.Forall₂ (pairing.nodes path) nodes nodes') :
    List.Forall₂ (Plan.Parallels pairing) (each nodes value path) (each nodes' value' path) :=
  Plan.mapped_parallels hnodes fun _ _ hnode => .enter path hnode hvalue

namespace Constrained

variable (h : Constrained pairing options options' path schema schema')
include h

/-- A keyword is there in both nodes or in neither. -/
theorem member (keyword : String) (constraint : isConstraint keyword) :
    (schema.member? keyword = none ∧ schema'.member? keyword = none) ∨
      ∃ node node', schema.member? keyword = some node ∧ schema'.member? keyword = some node' ∧
        (Position.of keyword).Pairs (pairing.nodes path) node node' :=
  none_or_some_of_rel (h.keywords keyword constraint)

theorem member_json_eq (keyword : String) (constraint : isConstraint keyword)
    (data : Position.of keyword = .data) :
    (schema'.member? keyword).map Node.json = (schema.member? keyword).map Node.json := by
  rcases h.member keyword constraint with ⟨hnone, hnone'⟩ | ⟨node, node', hsome, hsome', hpair⟩
  · rw [hnone, hnone']
  · rw [data] at hpair
    rw [hsome, hsome']
    exact congrArg some hpair

theorem value_eq {keyword : String} (constraint : isConstraint keyword)
    (data : Position.of keyword = .data) : schema'.value keyword = schema.value keyword :=
  Node.value_eq_of_rel (data ▸ h.keywords keyword constraint)

theorem report (hvalue : pairing.values value value') {place : Path} (finding : Finding) :
    Plan.Parallels pairing (.report schema value place finding)
      (.report schema' value' place finding) :=
  .report (h.seen hvalue (finding.violation place))

theorem settle (hvalue : pairing.values value value') {place : Path} (verdicts : List Verdict) :
    Plan.Parallels pairing (.settle schema value place verdicts)
      (.settle schema' value' place verdicts) :=
  Plan.settle_parallels (fun finding => h.seen hvalue (finding.violation place)) verdicts

theorem numberVerdicts_eq (value : Json) :
    numberVerdicts schema' value = numberVerdicts schema value := by
  have hmultiple : multipleOf schema' value = multipleOf schema value := by
    have hjson := h.member_json_eq "multipleOf" (by decide) rfl
    unfold multipleOf
    cases hnode : schema.member? "multipleOf" <;> cases hnode' : schema'.member? "multipleOf" <;>
      simp_all
  have hvalue : ∀ keyword ∈ ["minimum", "exclusiveMinimum", "maximum", "exclusiveMaximum"],
      schema'.value keyword = schema.value keyword := by
    simp only [List.forall_mem_cons, List.not_mem_nil, false_imp_iff, implies_true, and_true]
    exact ⟨h.value_eq (by decide) rfl, h.value_eq (by decide) rfl, h.value_eq (by decide) rfl,
      h.value_eq (by decide) rfl⟩
  simp only [List.forall_mem_cons, List.not_mem_nil, false_imp_iff, implies_true, and_true]
    at hvalue
  obtain ⟨hmin, hexmin, hmax, hexmax⟩ := hvalue
  simp only [numberVerdicts, hmultiple, minimum, exclusiveMinimum, maximum, exclusiveMaximum,
    hmin, hexmin, hmax, hexmax]

theorem limitVerdicts_eq {least most : Kind} (least_data : Position.of least.name = .data)
    (most_data : Position.of most.name = .data) (least_constraint : isConstraint least.name)
    (most_constraint : isConstraint most.name) (count : Nat) :
    limitVerdicts schema' least most count = limitVerdicts schema least most count := by
  simp only [limitVerdicts, h.value_eq least_constraint least_data, h.value_eq most_constraint most_data]

theorem textVerdicts_eq (s : String) :
    textVerdicts options' schema' s = textVerdicts options schema s := by
  have hpattern : pattern schema' s = pattern schema s := by
    have hjson := h.member_json_eq "pattern" (by decide) rfl
    unfold pattern
    cases hnode : schema.member? "pattern" <;> cases hnode' : schema'.member? "pattern" <;>
      simp_all
  have hformat : format options' schema' s = format options schema s := by
    have hjson := h.member_json_eq "format" (by decide) rfl
    unfold format
    rw [h.validateFormat]
    cases hnode : schema.member? "format" <;> cases hnode' : schema'.member? "format" <;>
      simp_all
  rw [textVerdicts, textVerdicts, hpattern, hformat,
    h.limitVerdicts_eq rfl rfl (by decide) (by decide)]

/-! Arrays. -/

theorem additionalItem_parallels {additional additional' : Node} {place : Path}
    (either : additional.PairsEither (pairing.nodes place) additional') {item item' : Json}
    (hitem : pairing.values item item') (i : Nat) :
    Plan.Parallels pairing (additionalItem schema additional i item place)
      (additionalItem schema' additional' i item' place) := by
  unfold additionalItem
  rcases either with ⟨harray, harray', hitems⟩ | ⟨harray, -, hnode⟩
  · obtain ⟨items, hjson⟩ := Json.eq_arr_of_isArray harray
    obtain ⟨items', hjson'⟩ := Json.eq_arr_of_isArray harray'
    rw [hjson, hjson']
    exact Plan.firstClean_parallels (h.report hitem _) (each_parallels hitem hitems)
  · rcases (h.akin hnode).same_or_objects with hsame | ⟨members, members', hjson, hjson'⟩
    · rw [hsame]
      cases hjson : additional.json with
      | null => exact .clean
      | bool b =>
        cases b with
        | true => exact .clean
        | false => exact h.report hitem _
      | arr items =>
        rw [hjson] at harray
        cases harray
      | _ => exact .enter place hnode hitem
    · rw [hjson, hjson']
      exact .enter place hnode hitem

omit h in
theorem indexed_pairs {elements elements' : List Json}
    (hitems : List.Forall₂ pairing.values elements elements') :
    List.Forall₂ (fun place place' => place'.1 = place.1 ∧ pairing.values place.2 place'.2)
      (indexed elements) (indexed elements') := by
  unfold indexed
  rw [List.forall₂_map_left_iff, List.forall₂_map_right_iff]
  generalize 0 = start
  induction hitems generalizing start with
  | nil => exact .nil
  | cons hitem _ ih => exact .cons ⟨rfl, hitem⟩ (ih (start + 1))

theorem tupleItems_parallels {additional additional' : Node}
    (either : ∀ step, additional.PairsEither (pairing.nodes (path ++ [step])) additional')
    {tuple tuple' : List Node} (htuple : List.Forall₂ (pairing.nodes path) tuple tuple')
    {elements elements' : List Json} (hitems : List.Forall₂ pairing.values elements elements') :
    Plan.Parallels pairing (tupleItems schema additional tuple elements path)
      (tupleItems schema' additional' tuple' elements' path) := by
  apply Plan.all_parallels
  apply Plan.mapped_parallels (indexed_pairs hitems)
  rintro ⟨_, item⟩ ⟨i, item'⟩ ⟨rfl, hitem⟩
  dsimp only
  unfold tupleItem
  have hlength := htuple.length_eq
  rcases Nat.lt_or_ge i tuple.length with hlt | hge
  · rw [List.getElem?_eq_getElem hlt, List.getElem?_eq_getElem (hlength ▸ hlt)]
    exact .enter _ (h.deeper _ (htuple.get hlt (hlength ▸ hlt))) hitem
  · rw [List.getElem?_eq_none hge, List.getElem?_eq_none (hlength ▸ hge)]
    exact h.additionalItem_parallels (either _) hitem i

theorem additionalItems_pairs (step : Step) :
    (Check.additionalItems options schema).PairsEither (pairing.nodes (path ++ [step]))
      (Check.additionalItems options' schema') := by
  unfold Check.additionalItems
  rcases h.member "additionalItems" (by decide) with ⟨hnone, hnone'⟩ |
    ⟨node, node', hsome, hsome', hpair⟩
  · rw [hnone, hnone']
    exact h.additionalItems step
  · rw [hsome, hsome']
    exact Node.PairsEither.mono hpair fun _ _ => h.deeper step

/-- Neither of two paired values is a schema, or both are. -/
theorem isSchemaValue_eq {node node' : Node} {place : Path}
    (either : node.PairsEither (pairing.nodes place) node') :
    isSchemaValue node'.json = isSchemaValue node.json := by
  rcases either with ⟨harray, harray', _⟩ | ⟨_, _, hnode⟩
  · obtain ⟨items, hjson⟩ := Json.eq_arr_of_isArray harray
    obtain ⟨items', hjson'⟩ := Json.eq_arr_of_isArray harray'
    rw [hjson, hjson']
    rfl
  · rcases (h.akin hnode).same_or_objects with hsame | ⟨members, members', hjson, hjson'⟩
    · rw [hsame]
    · rw [hjson, hjson']
      rfl

theorem items_parallels {elements elements' : List Json}
    (hitems : List.Forall₂ pairing.values elements elements') :
    Plan.Parallels pairing (items options schema elements path)
      (items options' schema' elements' path) := by
  have hadditional := h.additionalItems_pairs
  unfold items
  dsimp only
  rcases h.member "items" (by decide) with ⟨hnone, hnone'⟩ | ⟨node, node', hsome, hsome', hpair⟩
  · rw [hnone, hnone']
    dsimp only
    rw [h.isSchemaValue_eq (hadditional (.index 0))]
    split
    · exact h.tupleItems_parallels hadditional .nil hitems
    · exact .clean
  · rw [hsome, hsome']
    dsimp only
    rcases hpair with ⟨harray, harray', htuple⟩ | ⟨harray, harray', hnode⟩
    · rw [if_pos harray, if_pos harray']
      exact h.tupleItems_parallels hadditional htuple hitems
    · rw [if_neg (by simp [harray]), if_neg (by simp [harray'])]
      apply Plan.all_parallels
      apply Plan.mapped_parallels (indexed_pairs hitems)
      rintro ⟨_, item⟩ ⟨i, item'⟩ ⟨rfl, hitem⟩
      exact .enter _ (h.deeper _ hnode) hitem

theorem uniqueItems_eq {elements elements' : List Json}
    (hvalue : pairing.values (.arr elements) (.arr elements')) :
    uniqueItems schema' elements' = uniqueItems schema elements := by
  unfold uniqueItems
  rw [h.value_eq (by decide) rfl]
  cases hunique : (schema.value "uniqueItems").isTrue with
  | false => rfl
  | true =>
    have hmember : (schema.member? "uniqueItems").isSome := by
      rw [Node.value_eq] at hunique
      cases hnone : schema.member? "uniqueItems" with
      | none =>
        rw [hnone] at hunique
        cases hunique
      | some node => rfl
    cases h.whole (.inr hmember) _ _ hvalue
    rfl

theorem array_parallels {elements elements' : List Json}
    (hvalue : pairing.values (.arr elements) (.arr elements'))
    (hitems : List.Forall₂ pairing.values elements elements') :
    Plan.Parallels pairing (array options schema (.arr elements) elements path)
      (array options' schema' (.arr elements') elements' path) := by
  unfold array
  rw [h.uniqueItems_eq hvalue, ← hitems.length_eq,
    h.limitVerdicts_eq rfl rfl (by decide) (by decide)]
  exact .both (h.settle hvalue _) (h.items_parallels hitems)

/-! Objects. -/

omit h in
/-- A name that is not passed over is there if it is among those that are kept. -/
theorem has_kept {members : Members} {name : String} (shown : options.omits name = false) :
    Members.has (kept options members) name = Members.has members name := by
  unfold kept Members.has
  rw [List.any_filter]
  congr 1
  funext ⟨key, value⟩
  cases hname : key == name with
  | false => exact Bool.and_false _
  | true => simp [eq_of_beq hname, shown]

theorem has_eq {members members' : Members}
    (hkept : List.Forall₂ (Paired pairing.values) (kept options members) (kept options' members'))
    {name : String} (shown : options.omits name = false) :
    Members.has members' name = Members.has members name := by
  have hshown : options'.omits name = false := by rw [h.omits, shown]
  rw [← has_kept hshown, Paired.has_eq hkept, has_kept shown]

theorem table_pairs (keyword : String) (constraint : isConstraint keyword)
    (table : Position.of keyword = .table) :
    List.Forall₂ (Paired (pairing.nodes path)) (((schema.member? keyword).map Node.members).getD [])
      (((schema'.member? keyword).map Node.members).getD []) :=
  Node.members_of_rel (table ▸ h.keywords keyword constraint)

theorem required_eq {members members' : Members}
    (hkept : List.Forall₂ (Paired pairing.values) (kept options members) (kept options' members')) :
    required options' schema' members' = required options schema members := by
  unfold required
  rw [h.requiredNames, h.omits]
  apply List.map_congr_left
  intro name _
  cases homits : options.omits name with
  | true => simp
  | false => rw [h.has_eq hkept homits]

omit h in
theorem targets_pairs {declared declared' : Node}
    (either : declared.PairsEither (pairing.nodes path) declared') :
    List.Forall₂ (pairing.nodes path) (targets declared) (targets declared') := by
  unfold targets
  rcases either with ⟨harray, harray', hitems⟩ | ⟨harray, harray', hnode⟩
  · rw [if_pos harray, if_pos harray']
    exact hitems
  · rw [if_neg (by simp [harray]), if_neg (by simp [harray'])]
    exact .cons hnode .nil

theorem dependency_parallels {members members' : Members}
    (hvalue : pairing.values (.obj members) (.obj members')) {target target' : Node}
    (htarget : pairing.nodes path target target') (owner : String)
    (hneeded : ∀ name, target.json = .str name →
      Members.has members' name = Members.has members name) :
    Plan.Parallels pairing (dependency schema members path owner target)
      (dependency schema' members' path owner target') := by
  unfold dependency
  rcases (h.akin htarget).same_or_objects with hsame | ⟨own, own', hjson, hjson'⟩
  · rw [hsame]
    cases hjson : target.json with
    | obj _ => exact .enter path htarget hvalue
    | str name =>
      dsimp only
      rw [hneeded name hjson]
      split
      · exact .clean
      · exact h.report hvalue _
    | _ => exact h.report hvalue _
  · rw [hjson, hjson']
    exact .enter path htarget hvalue

theorem dependencies_parallels {members members' : Members}
    (hvalue : pairing.values (.obj members) (.obj members'))
    (hkept : List.Forall₂ (Paired pairing.values) (kept options members) (kept options' members')) :
    Plan.Parallels pairing (dependencies options schema members path)
      (dependencies options' schema' members' path) := by
  have hdeclared : List.Forall₂ (Paired (Node.PairsEither (pairing.nodes path)))
      (declaredDependencies schema) (declaredDependencies schema') := by
    unfold declaredDependencies
    rcases h.member "dependencies" (by decide) with ⟨hnone, hnone'⟩ |
      ⟨node, node', hsome, hsome', hpair⟩
    · rw [hnone, hnone']
      exact .nil
    · rw [hsome, hsome']
      exact hpair
  have hneeded : ∀ entry ∈ declaredDependencies schema, ∀ target ∈ targets entry.2, ∀ name,
      target.json = .str name → Members.has members' name = Members.has members name := by
    intro entry hentry target htarget name hjson
    cases homits : options.omits name with
    | false => exact h.has_eq hkept homits
    | true =>
      refine h.needed hvalue (List.mem_flatMap.mpr ⟨entry, hentry, ?_⟩) homits
      exact List.mem_filterMap.mpr ⟨target, htarget, by rw [hjson]⟩
  apply Plan.all_parallels
  apply Plan.mapped_parallels ((List.forall₂_and_left _ _).mpr ⟨hneeded, hdeclared⟩)
  rintro ⟨_, declared⟩ ⟨owner, declared'⟩ ⟨hneeded, rfl, heither⟩
  dsimp only
  rw [h.omits]
  cases homits : options.omits owner with
  | true => simpa using .clean
  | false =>
    rw [h.has_eq hkept homits]
    split
    · exact .clean
    · apply Plan.all_parallels
      apply Plan.mapped_parallels ((List.forall₂_and_left _ _).mpr ⟨hneeded, targets_pairs heither⟩)
      rintro target target' ⟨hneeded, htarget⟩
      exact h.dependency_parallels hvalue htarget owner hneeded

theorem additionalProperty_parallels {additional additional' : Node} {place : Path}
    (hadditional : additional.PairsAdditional (pairing.nodes place) additional')
    {members members' : Members} (hvalue : pairing.values (.obj members) (.obj members'))
    {own own' : Json} (hown : pairing.values own own') (name : String) :
    Plan.Parallels pairing (additionalProperty schema additional members name own place)
      (additionalProperty schema' additional' members' name own' place) := by
  have hforbidden : Plan.Parallels pairing (forbidden schema members name place)
      (forbidden schema' members' name place) := h.report hvalue _
  unfold additionalProperty
  rcases hadditional with ⟨htable, htable', hentries⟩ | ⟨htable, htable', hnode⟩
  · have hmember := Paired.lookup hentries name
    rw [Node.lookup_members, Node.lookup_members] at hmember
    rw [isTable, Bool.and_eq_true] at htable htable'
    obtain ⟨entries, hjson⟩ := Json.eq_obj_of_isObject htable.1
    obtain ⟨entries', hjson'⟩ := Json.eq_obj_of_isObject htable'.1
    rw [hjson] at htable
    rw [hjson'] at htable'
    rw [hjson, hjson']
    dsimp only
    rw [htable.1, htable.2, htable'.1, htable'.2]
    generalize additional.member? name = found at hmember
    generalize additional'.member? name = found' at hmember
    cases hmember with
    | none => exact hforbidden
    | some hnode => exact .enter _ hnode hown
  · rw [isTable] at htable htable'
    rcases (h.akin hnode).same_or_objects with hsame | ⟨entries, entries', hjson, hjson'⟩
    · rw [hsame]
      cases hjson : additional.json with
      | null => exact .clean
      | bool b =>
        cases b with
        | true => exact .clean
        | false => exact hforbidden
      | obj _ =>
        rw [hjson] at htable
        dsimp only
        rw [htable]
        exact .enter _ hnode hown
      | _ => exact .enter _ hnode hown
    · rw [hjson] at htable
      rw [hjson'] at htable'
      rw [hjson, hjson']
      dsimp only
      rw [htable, htable']
      exact .enter _ hnode hown

/-- Tables of patterns are there in both nodes or in neither, and have the same patterns. -/
theorem patterns_pairs :
    (patternProperties? schema = none ∧ patternProperties? schema' = none) ∨
      ∃ entries entries', patternProperties? schema = some entries ∧
        patternProperties? schema' = some entries' ∧
        List.Forall₂ (Paired (pairing.nodes path)) entries entries' := by
  unfold patternProperties?
  rcases h.member "patternProperties" (by decide) with ⟨hnone, hnone'⟩ |
    ⟨node, node', hsome, hsome', hobject, hentries⟩
  · rw [hnone, hnone']
    exact .inl ⟨rfl, rfl⟩
  · rw [hsome, hsome']
    dsimp only
    rw [hobject]
    cases node.json.isObject with
    | false => exact .inl ⟨rfl, rfl⟩
    | true => exact .inr ⟨_, _, rfl, rfl, hentries⟩

omit h in
theorem compiled_pairs {entries entries' : List (String × Node)}
    (hentries : List.Forall₂ (Paired (pairing.nodes path)) entries entries') :
    List.Forall₂ (fun entry entry' => entry'.1 = entry.1 ∧ pairing.nodes path entry.2 entry'.2)
      (compiled entries) (compiled entries') := by
  induction hentries with
  | nil => exact .nil
  | @cons entry entry' _ _ hentry _ ih =>
    obtain ⟨_, node⟩ := entry
    obtain ⟨text, node'⟩ := entry'
    obtain ⟨rfl, hnode⟩ := hentry
    unfold compiled at ih ⊢
    rw [List.filterMap_cons, List.filterMap_cons]
    dsimp only at hnode ⊢
    cases (Pattern.ofText? text).toOption with
    | none => exact ih
    | some pattern => exact .cons ⟨rfl, hnode⟩ ih

/-- The first pattern that matches is the same in both tables. -/
theorem matching?_pairs (name : String) {entries entries' : List (Pattern × Node)}
    (hentries : List.Forall₂
      (fun entry entry' => entry'.1 = entry.1 ∧ pairing.nodes path entry.2 entry'.2)
      entries entries') :
    (∃ f, matching? name entries = .error f ∧ matching? name entries' = .error f) ∨
      ∃ found found', matching? name entries = .ok found ∧ matching? name entries' = .ok found' ∧
        Option.Rel (pairing.nodes path) found found' := by
  induction hentries with
  | nil => exact .inr ⟨_, _, rfl, rfl, .none⟩
  | @cons entry entry' _ _ hentry _ ih =>
    obtain ⟨_, node⟩ := entry
    obtain ⟨pattern, node'⟩ := entry'
    obtain ⟨rfl, hnode⟩ := hentry
    rw [matching?, matching?]
    dsimp only
    rw [(h.akin hnode).isNull_eq]
    rcases pattern.foundIn name with flaw | _ | _
    · exact .inl ⟨_, rfl, rfl⟩
    · exact ih
    · refine .inr ⟨_, _, rfl, rfl, ?_⟩
      cases node.isNull with
      | true => exact .none
      | false => exact .some hnode

theorem property_parallels {members members' : Members}
    (hvalue : pairing.values (.obj members) (.obj members'))
    {patterns patterns' : Option (List (Pattern × Node))} (hsome : patterns'.isSome = patterns.isSome)
    (hpatterns : List.Forall₂
      (fun entry entry' => entry'.1 = entry.1 ∧ pairing.nodes path entry.2 entry'.2)
      (patterns.getD []) (patterns'.getD []))
    {own own' : Json} (hown : pairing.values own own') (name : String) :
    Plan.Parallels pairing (property options schema members patterns path name own)
      (property options' schema' members' patterns' path name own') := by
  have hdeclared := Paired.lookup (h.table_pairs "properties" (by decide) rfl) name
  change Option.Rel _ ((properties schema).lookup name) ((properties schema').lookup name)
    at hdeclared
  unfold property
  generalize (properties schema).lookup name = declared at hdeclared
  generalize (properties schema').lookup name = declared' at hdeclared
  cases hdeclared with
  | some hnode => exact .enter _ (h.deeper _ hnode) hown
  | none =>
    dsimp only
    rcases h.matching?_pairs name hpatterns with ⟨f, herror, herror'⟩ |
      ⟨found, found', hok, hok', hfound⟩
    · rw [herror, herror']
      exact .fault f
    · rw [hok, hok']
      cases hfound with
      | some hnode => exact .enter _ (h.deeper _ hnode) hown
      | none =>
        rcases h.member "additionalProperties" (by decide) with ⟨hnone, hnone'⟩ |
          ⟨node, node', hnode, hnode', hpair⟩
        · rw [hnone, hnone']
          dsimp only
          rw [hsome]
          split
          · exact h.report hvalue _
          · exact h.additionalProperty_parallels (h.additionalProperties _) hvalue hown name
        · rw [hnode, hnode']
          have hdeeper := Node.PairsAdditional.mono hpair fun _ _ => h.deeper (.key name)
          exact h.additionalProperty_parallels hdeeper hvalue hown name

theorem patternName_parallels (hvalue : pairing.values value value') (text : String) :
    Plan.Parallels pairing (patternName schema value path text)
      (patternName schema' value' path text) := by
  unfold patternName
  split
  · exact .clean
  · exact h.report hvalue _
  · exact .fault _

theorem object_parallels {members members' : Members}
    (hvalue : pairing.values (.obj members) (.obj members'))
    (hkept : List.Forall₂ (Paired pairing.values) (kept options members) (kept options' members')) :
    Plan.Parallels pairing (object options schema members path)
      (object options' schema' members' path) := by
  have hproperties : ∀ patterns patterns' : Option (List (Pattern × Node)),
      patterns'.isSome = patterns.isSome → List.Forall₂
        (fun entry entry' => entry'.1 = entry.1 ∧ pairing.nodes path entry.2 entry'.2)
        (patterns.getD []) (patterns'.getD []) →
      Plan.Parallels pairing
        (.all ((kept options members).map fun (name, value) =>
          property options schema members patterns path name value))
        (.all ((kept options' members').map fun (name, value) =>
          property options' schema' members' patterns' path name value)) := by
    intro patterns patterns' hsome hpatterns
    apply Plan.all_parallels
    apply Plan.mapped_parallels hkept
    rintro ⟨_, own⟩ ⟨name, own'⟩ ⟨rfl, hown⟩
    exact h.property_parallels hvalue hsome hpatterns hown name
  unfold object
  dsimp only
  rw [h.required_eq hkept, h.limitVerdicts_eq rfl rfl (by decide) (by decide), ← hkept.length_eq]
  apply Plan.all_parallels
  refine .cons (h.settle hvalue _) (.cons (h.dependencies_parallels hvalue hkept) ?_)
  rcases h.patterns_pairs with ⟨hnone, hnone'⟩ | ⟨entries, entries', hsome, hsome', hentries⟩
  · rw [hnone, hnone']
    exact .cons .clean (.cons (hproperties none none rfl .nil) .nil)
  · rw [hsome, hsome']
    refine .cons ?_ (.cons (hproperties _ _ rfl (compiled_pairs hentries)) .nil)
    apply Plan.all_parallels
    apply Plan.mapped_parallels hentries
    rintro ⟨_, node⟩ ⟨text, node'⟩ ⟨rfl, _⟩
    exact h.patternName_parallels hvalue text

/-! Types, combinators and the node as a whole. -/

theorem ofType_parallels (hvalue : pairing.values value value') (type : SchemaType) :
    Plan.Parallels pairing (ofType options schema value path type)
      (ofType options' schema' value' path type) := by
  have hmismatch : ∀ finding, Plan.Parallels pairing (.report schema value path finding)
      (.report schema' value' path finding) := fun finding => h.report hvalue finding
  have hresembles := h.resembles hvalue
  cases hresembles with
  | arr hitems =>
    cases type
    case array => exact h.array_parallels hvalue hitems
    all_goals first | exact .clean | exact hmismatch _
  | obj hkept =>
    rename_i members members'
    have hkept' : List.Forall₂ (Paired pairing.values) (kept options members)
        (kept options' members') := by
      rw [kept, kept, h.omits]
      exact hkept
    cases type
    case object => exact h.object_parallels hvalue hkept'
    all_goals first | exact .clean | exact hmismatch _
  | scalar harray hobject =>
    cases type
    case any => exact .clean
    case number =>
      rw [ofType, ofType, h.numberVerdicts_eq]
      split
      · exact h.settle hvalue _
      · exact hmismatch _
    case integer =>
      rw [ofType, ofType, h.numberVerdicts_eq]
      split
      · exact h.settle hvalue _
      · exact hmismatch _
    case string =>
      cases value with
      | str s =>
        rw [ofType, ofType, h.textVerdicts_eq]
        exact h.settle hvalue _
      | _ => exact hmismatch _
    case array => cases value <;> first | exact hmismatch _ | cases harray
    case object => cases value <;> first | exact hmismatch _ | cases hobject
    all_goals cases value <;> first | exact .clean | exact hmismatch _

theorem type_parallels (hvalue : pairing.values value value') (named : Json) :
    Plan.Parallels pairing (Check.type options schema value path named)
      (Check.type options' schema' value' path named) := by
  unfold Check.type
  split
  · exact h.ofType_parallels hvalue _
  · exact h.report hvalue _

theorem union_parallels (hvalue : pairing.values value value') {members members' : Node}
    (htype : schema.member? "type" = some members)
    (htype' : schema'.member? "type" = some members')
    (hitems : List.Forall₂ (pairing.nodes path) members.items members'.items) :
    Plan.Parallels pairing (union options schema members value path)
      (union options' schema' members' value' path) := by
  rw [union_eq, union_eq]
  apply Plan.firstClean_parallels (.report (h.types htype htype' hvalue hitems))
  apply Plan.mapped_parallels hitems
  intro member member' hmember
  have akin := h.akin hmember
  unfold unionMember
  rw [akin.isObject]
  cases hobject : member.json.isObject with
  | true => exact .enter path hmember hvalue
  | false =>
    rw [akin.atom hobject]
    exact h.type_parallels hvalue _

theorem enumeration_parallels (hvalue : pairing.values value value')
    (governed : (schema.member? "enum").isSome) {members members' : Node}
    (hmembers : members'.json = members.json) :
    Plan.Parallels pairing (enumeration schema members value path)
      (enumeration schema' members' value' path) := by
  cases h.whole (.inl governed) _ _ hvalue
  unfold enumeration
  rw [hmembers]
  split
  · split
    · exact .clean
    · exact h.report hvalue _
  · exact h.report hvalue _

/-- One of the lists of schemas of which all, some or one should match. -/
theorem combined_parallels (hvalue : pairing.values value value') {members members' : Node}
    (hlist : Position.list.Pairs (pairing.nodes path) members members') (kind : Kind)
    {plan plan' : List Plan → Plan}
    (hplan : ∀ {plans plans' : List Plan}, List.Forall₂ (Plan.Parallels pairing) plans plans' →
      Plan.Parallels pairing (plan plans) (plan' plans')) :
    Plan.Parallels pairing
      (if members.json.isArray then plan (each members.items value path)
        else .report schema value path (malformedCombinator kind))
      (if members'.json.isArray then plan' (each members'.items value' path)
        else .report schema' value' path (malformedCombinator kind)) := by
  rcases hlist with ⟨harray, harray', hitems⟩ | ⟨harray, hjson⟩
  · rw [if_pos harray, if_pos harray']
    exact hplan (each_parallels hvalue hitems)
  · rw [hjson, harray]
    exact h.report hvalue _

theorem has_member_eq {members members' : Members} (hjson : schema.json = .obj members)
    (hjson' : schema'.json = .obj members') (keyword : String) (constraint : isConstraint keyword) :
    Members.has members' keyword = Members.has members keyword := by
  have hisSome : (schema'.member? keyword).isSome = (schema.member? keyword).isSome := by
    rcases h.member keyword constraint with ⟨hnone, hnone'⟩ | ⟨_, _, hsome, hsome', _⟩
    · rw [hnone, hnone']
    · rw [hsome, hsome']
      rfl
  rw [Node.member?, Node.member?, hjson, hjson', Option.isSome_map, Option.isSome_map] at hisSome
  rw [Members.has_eq_isSome_lookup, Members.has_eq_isSome_lookup, hisSome]

end Constrained

namespace Corresponds

variable (h : Corresponds pairing options options' path schema schema')
include h

/-- Both nodes tell the same type by their shape. -/
theorem inferredType?_eq {members members' : Members} (hjson : schema.json = .obj members)
    (hjson' : schema'.json = .obj members') (untyped : schema.member? "type" = none)
    (untyped' : schema'.member? "type" = none) :
    inferredType? members' = inferredType? members := by
  have hhas := h.has_member_eq hjson hjson'
  have htype : members.lookup "type" = none := by
    simpa [Node.member?, hjson] using untyped
  have htype' : members'.lookup "type" = none := by
    simpa [Node.member?, hjson'] using untyped'
  rw [inferredType?, inferredType?, htype, htype', hhas "properties" (by decide),
    hhas "items" (by decide)]

omit h in
/-- A type told by the shape is a name. -/
theorem isArray_inferredType? {members : Members} {named : Json}
    (untyped : members.lookup "type" = none) (hnamed : inferredType? members = some named) :
    named.isArray = false := by
  unfold inferredType? at hnamed
  rw [untyped] at hnamed
  dsimp only at hnamed
  split at hnamed
  · cases hnamed
    rfl
  · split at hnamed <;> cases hnamed
    rfl

omit h in
/-- Only a type that is declared can be a list. -/
theorem member?_of_governingType? {schema named : Node} (hnamed : governingType? schema = some named)
    (harray : named.json.isArray) : schema.member? "type" = some named := by
  unfold governingType? at hnamed
  cases htype : schema.member? "type" with
  | some type =>
    rw [htype] at hnamed
    dsimp only at hnamed
    split at hnamed <;> cases hnamed
    rfl
  | none =>
    rw [htype] at hnamed
    cases hjson : schema.json with
    | obj members =>
      rw [hjson] at hnamed
      obtain ⟨type, hinferred, rfl⟩ := Option.map_eq_some_iff.mp hnamed
      have hlookup : members.lookup "type" = none := by
        simpa [Node.member?, hjson] using htype
      rw [isArray_inferredType? hlookup hinferred] at harray
      cases harray
    | _ =>
      rw [hjson] at hnamed
      cases hnamed

/-- The type that governs a node, declared or told by its shape, corresponds as well. -/
theorem governingType?_pairs (object : schema.json.isObject) (object' : schema'.json.isObject) :
    (governingType? schema = none ∧ governingType? schema' = none) ∨
      ∃ named named', governingType? schema = some named ∧ governingType? schema' = some named' ∧
        Position.list.Pairs (pairing.nodes path) named named' := by
  unfold governingType?
  rcases none_or_some_of_rel h.typed with ⟨hnone, hnone'⟩ | ⟨node, node', hsome, hsome', hpair⟩
  · obtain ⟨members, hjson⟩ := Json.eq_obj_of_isObject object
    obtain ⟨members', hjson'⟩ := Json.eq_obj_of_isObject object'
    have htype : members.lookup "type" = none := by
      simpa [Node.member?, hjson] using hnone
    have hinferred := h.inferredType?_eq hjson hjson' hnone hnone'
    rw [hnone, hnone', hjson, hjson']
    dsimp only
    rw [hinferred]
    cases hnamed : inferredType? members with
    | none => exact .inl ⟨rfl, rfl⟩
    | some named =>
      exact .inr ⟨_, _, rfl, rfl, .inr ⟨isArray_inferredType? htype hnamed, rfl⟩⟩
  · rw [hsome, hsome']
    have hnull : node'.isNull = node.isNull := by
      rcases hpair with ⟨harray, harray', _⟩ | ⟨_, hjson⟩
      · obtain ⟨items, hjson⟩ := Json.eq_arr_of_isArray harray
        obtain ⟨items', hjson'⟩ := Json.eq_arr_of_isArray harray'
        rw [Node.isNull, Node.isNull, hjson, hjson']
      · rw [Node.isNull, hjson, ← Node.isNull]
    dsimp only
    rw [hnull]
    cases node.isNull with
    | true => exact .inl ⟨rfl, rfl⟩
    | false => exact .inr ⟨node, node', rfl, rfl, hpair⟩

/-- Nodes that correspond are checked in step if their references are. -/
theorem governing_parallels (hvalue : pairing.values value value') (object : schema.json.isObject)
    (object' : schema'.json.isObject)
    (references : (∀ keyword ∈ combinators, schema.member? keyword = none) → ∀ ref ref',
      schema.member? "$ref" = some ref → schema'.member? "$ref" = some ref' →
      Plan.Parallels pairing (reference options root schema ref.json value path)
        (reference options' root' schema' ref'.json value' path)) :
    Plan.Parallels pairing (governing options root schema value path)
      (governing options' root' schema' value' path) := by
  unfold governing
  rcases h.member "enum" (by decide) with ⟨hnum, hnum'⟩ | ⟨members, members', hsome, hsome', hpair⟩
  swap
  · rw [hsome, hsome']
    exact h.enumeration_parallels hvalue (by rw [hsome]; rfl) hpair
  rw [hnum, hnum']
  dsimp only
  rcases h.member "oneOf" (by decide) with ⟨hone, hone'⟩ | ⟨members, members', hsome, hsome', hpair⟩
  swap
  · rw [hsome, hsome']
    refine h.combined_parallels hvalue hpair .oneOf fun hplans => ?_
    refine Plan.countClean_parallels (fun count => ?_) 0 hplans
    cases oneOfVerdict count with
    | none => exact .clean
    | some finding => exact h.report hvalue finding
  rw [hone, hone']
  dsimp only
  rcases h.member "allOf" (by decide) with ⟨hall, hall'⟩ | ⟨members, members', hsome, hsome', hpair⟩
  swap
  · rw [hsome, hsome']
    exact h.combined_parallels hvalue hpair .allOf fun hplans => Plan.all_parallels hplans
  rw [hall, hall']
  dsimp only
  rcases h.member "anyOf" (by decide) with ⟨hany, hany'⟩ | ⟨members, members', hsome, hsome', hpair⟩
  swap
  · rw [hsome, hsome']
    exact h.combined_parallels hvalue hpair .anyOf fun hplans =>
      Plan.firstClean_parallels (h.report hvalue _) hplans
  rw [hany, hany']
  dsimp only
  rcases h.member "$ref" (by decide) with ⟨href, href'⟩ | ⟨ref, ref', hsome, hsome', hpair⟩
  swap
  · rw [hsome, hsome']
    refine references ?_ ref ref' hsome hsome'
    simp [combinators, hnum, hone, hall, hany]
  rw [href, href']
  dsimp only
  rcases h.governingType?_pairs object object' with ⟨hnone, hnone'⟩ |
    ⟨named, named', hsome, hsome', hpair⟩
  · rw [hnone, hnone']
    exact .clean
  · rw [hsome, hsome']
    dsimp only
    rcases hpair with ⟨harray, harray', hitems⟩ | ⟨harray, hjson⟩
    · rw [if_pos harray, if_pos harray']
      exact h.union_parallels hvalue (member?_of_governingType? hsome harray)
        (member?_of_governingType? hsome' harray') hitems
    · rw [hjson, harray]
      exact h.type_parallels hvalue _

theorem node_parallels (hvalue : pairing.values value value') (object : schema.json.isObject)
    (object' : schema'.json.isObject)
    (references : (∀ keyword ∈ combinators, schema.member? keyword = none) → ∀ ref ref',
      schema.member? "$ref" = some ref → schema'.member? "$ref" = some ref' →
      Plan.Parallels pairing (reference options root schema ref.json value path)
        (reference options' root' schema' ref'.json value' path)) :
    Plan.Parallels pairing (node options root schema value path)
      (node options' root' schema' value' path) := by
  obtain ⟨members, hjson⟩ := Json.eq_obj_of_isObject object
  obtain ⟨members', hjson'⟩ := Json.eq_obj_of_isObject object'
  rw [node_of_obj hjson, node_of_obj hjson']
  exact h.governing_parallels hvalue object object' references

end Corresponds

end Check

end JsonSchema
