import JsonSchema.Proofs.Inlining
import JsonSchema.Proofs.Lockstep

/-! Annotations, and attributes of names that are no keywords. No check looks at them, so a
schema with some of them added, wherever schemas stand in it, has the outcomes that it had. -/
namespace JsonSchema

/-- Whether a member may be added to a schema without a change to what it says: an annotation,
or an attribute of another name that is not taken for a schema. -/
def isRemark (member : String × Json) : Bool :=
  annotationKeywords.contains member.1 ||
    !schemaKeywords.contains member.1 && !member.2.isObject

/-- How schemas stand in the value of a keyword, definitions included. -/
def Position.within (keyword : String) : Position :=
  if keyword = "definitions" then .table else .of keyword

/-- A value with remarks added to schemas: to itself if it stands where a schema is meant, and
otherwise to the schemas in it as the value of a keyword. -/
inductive Json.Remarked : Option Position → Json → Json → Prop
  | same (place : Option Position) (json : Json) : Remarked place json json
  | remark {members members' : Members} {remark : String × Json} : isRemark remark →
      Remarked none (.obj members) (.obj members') →
      Remarked none (.obj members) (.obj (remark :: members'))
  | keep {members members' : Members} (keyword : String) {value value' : Json} :
      Remarked (some (.within keyword)) value value' →
      Remarked none (.obj members) (.obj members') →
      Remarked none (.obj ((keyword, value) :: members)) (.obj ((keyword, value') :: members'))
  | entry {entries entries' : Members} (name : String) {schema schema' : Json} :
      Remarked none schema schema' → Remarked (some .table) (.obj entries) (.obj entries') →
      Remarked (some .table) (.obj ((name, schema) :: entries)) (.obj ((name, schema') :: entries'))
  | item {items items' : List Json} {schema schema' : Json} :
      Remarked none schema schema' → Remarked (some .list) (.arr items) (.arr items') →
      Remarked (some .list) (.arr (schema :: items)) (.arr (schema' :: items'))
  | items {items items' : List Json} : Remarked (some .list) (.arr items) (.arr items') →
      Remarked (some .either) (.arr items) (.arr items')
  | alone {schema schema' : Json} : schema.isArray = false → Remarked none schema schema' →
      Remarked (some .either) schema schema'
  | table {table table' : Json} : isTable table → Remarked (some .table) table table' →
      Remarked (some .additional) table table'
  | additional {schema schema' : Json} : isTable schema = false → Remarked none schema schema' →
      Remarked (some .additional) schema schema'
  | dependency {entries entries' : Members} (name : String) {value value' : Json} :
      Remarked (some .either) value value' →
      Remarked (some .dependencies) (.obj entries) (.obj entries') →
      Remarked (some .dependencies) (.obj ((name, value) :: entries))
        (.obj ((name, value') :: entries'))

/-- What a member has in a schema that it does not have in a table of schemas. -/
def isMark (member : String × Json) : Bool :=
  schemaKeywords.contains member.1 || !member.2.isObject

theorem isTable_eq (json : Json) :
    isTable json = (json.isObject && !(json.entries.isEmpty || json.entries.any isMark)) := by
  cases json with
  | obj members =>
    have hany : members.any isMark = ((Members.keys members).any schemaKeywords.contains ||
        !(Members.values members).all Json.isObject) := by
      induction members with
      | nil => rfl
      | cons member rest ih =>
        simp only [List.any_cons, ih, isMark, Members.keys, Members.values, List.map_cons,
          List.all_cons, Bool.not_and, Bool.or_assoc, Bool.or_left_comm]
    rw [isTable, isSchemaLike, Json.entries, hany, Bool.or_assoc]
  | _ => rfl

theorem isMark_of_isRemark {member : String × Json} (h : isRemark member) : isMark member := by
  have hstandard : ∀ name ∈ annotationKeywords, schemaKeywords.contains name = true := by
    decide
  unfold isRemark at h
  unfold isMark
  rw [Bool.or_eq_true] at h ⊢
  rcases h with h | h
  · exact .inl (hstandard _ (List.contains_iff_mem.mp h))
  · exact .inr (Bool.and_eq_true_iff.mp h).2

namespace Json.Remarked

variable {place : Option Position} {json json' : Json}

theorem isObject_eq (h : Remarked place json json') : json'.isObject = json.isObject := by
  induction h with
  | alone _ _ ih => exact ih
  | table _ _ ih => exact ih
  | additional _ _ ih => exact ih
  | _ => rfl

theorem isArray_eq (h : Remarked place json json') : json'.isArray = json.isArray := by
  induction h with
  | alone _ _ ih => exact ih
  | table _ _ ih => exact ih
  | additional _ _ ih => exact ih
  | _ => rfl

theorem eq_of_atom (h : Remarked none json json') (atom : json.isObject = false) :
    json' = json := by
  cases h with
  | same => rfl
  | _ => cases atom

theorem any_isMark (h : Remarked none json json') (marked : json.entries.any isMark) :
    json'.entries.any isMark := by
  generalize hplace : none = place at h
  induction h with
  | same => exact marked
  | @remark _ _ remark hremark _ ih =>
    rw [entries, List.any_cons, isMark_of_isRemark hremark]
    rfl
  | keep keyword hvalue _ _ ih =>
    rw [entries, List.any_cons, Bool.or_eq_true] at marked ⊢
    refine marked.imp (fun hmark => ?_) (ih · rfl)
    unfold isMark at hmark ⊢
    rwa [hvalue.isObject_eq]
  | _ => cases hplace

/-- What is no table is none with remarks either: every remark marks a schema. -/
theorem not_isTable (h : Remarked none json json') (schema : isTable json = false) :
    isTable json' = false := by
  rw [isTable_eq, h.isObject_eq]
  rw [isTable_eq] at schema
  cases hobject : json.isObject with
  | false => rfl
  | true =>
    rw [hobject, Bool.true_and, Bool.not_eq_false', Bool.or_eq_true] at schema
    rw [Bool.true_and, Bool.not_eq_false', Bool.or_eq_true]
    rcases schema with hempty | hmarked
    · cases h with
      | same => exact .inl hempty
      | remark hremark _ =>
        right
        rw [entries, List.any_cons, isMark_of_isRemark hremark]
        rfl
      | keep => cases hempty
    · exact .inr (h.any_isMark hmarked)

theorem entries_pairs (h : Remarked (some .table) json json') :
    List.Forall₂ (Paired (Remarked none)) json.entries json'.entries := by
  generalize hplace : some Position.table = place at h
  induction h with
  | same place json => exact List.forall₂_same.mpr fun _ _ => ⟨rfl, .same none _⟩
  | entry name hschema _ _ ih => exact .cons ⟨rfl, hschema⟩ (ih hplace)
  | _ => cases hplace

theorem elements_pairs (h : Remarked (some .list) json json') :
    List.Forall₂ (Remarked none) json.elements json'.elements := by
  generalize hplace : some Position.list = place at h
  induction h with
  | same place json => exact List.forall₂_same.mpr fun _ _ => .same none _
  | item hschema _ _ ih => exact .cons hschema (ih hplace)
  | _ => cases hplace

theorem dependencies_pairs (h : Remarked (some .dependencies) json json') :
    List.Forall₂ (Paired (Remarked (some .either))) json.entries json'.entries := by
  generalize hplace : some Position.dependencies = place at h
  induction h with
  | same place json => exact List.forall₂_same.mpr fun _ _ => ⟨rfl, .same _ _⟩
  | dependency name hvalue _ _ ih => exact .cons ⟨rfl, hvalue⟩ (ih hplace)
  | _ => cases hplace

theorem either_pairs (h : Remarked (some .either) json json') :
    (json.isArray → List.Forall₂ (Remarked none) json.elements json'.elements) ∧
      (json.isArray = false → Remarked none json json') := by
  cases h with
  | same => exact ⟨fun _ => List.forall₂_same.mpr fun _ _ => .same none _, fun _ => .same none _⟩
  | items hitems => exact ⟨fun _ => hitems.elements_pairs, fun harray => (by cases harray)⟩
  | alone harray hschema =>
    refine ⟨fun h => ?_, fun _ => hschema⟩
    rw [harray] at h
    cases h

theorem additional_pairs (h : Remarked (some .additional) json json') :
    (isTable json → Remarked (some .table) json json') ∧
      (isTable json = false → Remarked none json json') := by
  cases h with
  | same => exact ⟨fun _ => .same _ _, fun _ => .same _ _⟩
  | table htable hentries =>
    refine ⟨fun _ => hentries, fun h => ?_⟩
    rw [htable] at h
    cases h
  | additional htable hschema =>
    refine ⟨fun h => ?_, fun _ => hschema⟩
    rw [htable] at h
    cases h

theorem eq_of_data (h : Remarked (some .data) json json') : json' = json := by
  cases h
  rfl

theorem eq_of_no_list (h : Remarked (some .list) json json') (atom : json.isArray = false) :
    json' = json := by
  cases h with
  | same => rfl
  | item => cases atom

theorem isTable_of_table (h : Remarked (some .table) json json') (table : isTable json) :
    isTable json' := by
  have hmarks : ∀ {entries entries' : Members},
      List.Forall₂ (Paired (Remarked none)) entries entries' →
        entries'.isEmpty = entries.isEmpty ∧ entries'.any isMark = entries.any isMark := by
    intro entries entries' hentries
    induction hentries with
    | nil => exact ⟨rfl, rfl⟩
    | @cons entry entry' _ _ hentry _ ih =>
      refine ⟨rfl, ?_⟩
      rw [List.any_cons, List.any_cons, ih.2, isMark, hentry.1, hentry.2.isObject_eq, ← isMark]
  obtain ⟨hempty, hany⟩ := hmarks h.entries_pairs
  rw [isTable_eq, h.isObject_eq, hempty, hany, ← isTable_eq]
  exact table

/-- A keyword that says something is there with remarks as well, and its value is the same but
for remarks. -/
theorem lookup (h : Remarked none json json') (keyword : String)
    (known : schemaKeywords.contains keyword) (meant : annotationKeywords.contains keyword = false) :
    Option.Rel (Remarked (some (.within keyword))) (json.entries.lookup keyword)
      (json'.entries.lookup keyword) := by
  generalize hplace : none = place at h
  induction h with
  | same place json =>
    cases json.entries.lookup keyword with
    | none => exact .none
    | some value => exact .some (.same _ value)
  | @remark _ _ remark hremark _ ih =>
    have hother : (keyword == remark.1) = false := by
      refine beq_eq_false_iff_ne.mpr fun heq => ?_
      rw [isRemark, ← heq, meant, known] at hremark
      cases hremark
    obtain ⟨name, value⟩ := remark
    rw [entries, entries, List.lookup_cons, hother]
    exact ih hplace
  | keep name hvalue _ _ ih =>
    rw [entries, entries, List.lookup_cons, List.lookup_cons]
    cases hname : keyword == name with
    | true =>
      cases eq_of_beq hname
      exact .some hvalue
    | false => exact ih hplace
  | _ => cases hplace

end Json.Remarked

/-- Nodes at one place of which the second has remarks added. -/
structure Node.Remarked (place : Option Position) (node node' : Node) : Prop where
  address : node'.address = node.address
  json : node.json.Remarked place node'.json

namespace Node

variable {place : Option Position} {node node' : Node}

theorem Remarked.below {json json' : Json} (h : node.Remarked place node') {part : Option Position}
    (hjson : json.Remarked part json') (step : Step) :
    (node.below step json).Remarked part (node'.below step json') :=
  ⟨by rw [Node.below, Node.below, h.address], hjson⟩

theorem Remarked.refl (place : Option Position) (node : Node) : node.Remarked place node :=
  ⟨rfl, .same place node.json⟩

theorem Remarked.pairsItems (h : node.Remarked place node')
    (hitems : List.Forall₂ (Json.Remarked none) node.json.elements node'.json.elements)
    (harray : node.json.isArray) : node.PairsItems (Remarked none) node' :=
  ⟨harray, h.json.isArray_eq.trans harray,
    items_pairs (hitems.imp fun _ _ hitem step => h.below hitem step)⟩

theorem Remarked.members_pairs (h : node.Remarked place node') {part : Option Position}
    (hentries : List.Forall₂ (Paired (Json.Remarked part)) node.json.entries node'.json.entries) :
    List.Forall₂ (Paired (Remarked part)) node.members node'.members :=
  Node.members_pairs (hentries.imp fun _ _ hentry =>
    ⟨hentry.1, fun step => h.below hentry.2 step⟩)

theorem Remarked.pairsEither (h : node.Remarked (some .either) node') :
    node.PairsEither (Remarked none) node' := by
  obtain ⟨hitems, halone⟩ := h.json.either_pairs
  cases harray : node.json.isArray with
  | true => exact .inl (h.pairsItems (hitems harray) harray)
  | false =>
    exact .inr ⟨harray, h.json.isArray_eq.trans harray, h.address, halone harray⟩

theorem Remarked.pairsAdditional (h : node.Remarked (some .additional) node') :
    node.PairsAdditional (Remarked none) node' := by
  obtain ⟨htable, halone⟩ := h.json.additional_pairs
  cases hnode : isTable node.json with
  | true =>
    have hentries := htable hnode
    exact .inl ⟨hnode, hentries.isTable_of_table hnode, h.members_pairs hentries.entries_pairs⟩
  | false =>
    have hschema := halone hnode
    exact .inr ⟨hnode, hschema.not_isTable hnode, h.address, hschema⟩

/-- What a keyword holds corresponds to what it holds with remarks. -/
theorem Remarked.pairs {position : Position} (h : node.Remarked (some position) node') :
    position.Pairs (Remarked none) node node' := by
  cases position with
  | data => exact h.json.eq_of_data
  | table => exact ⟨h.json.isObject_eq, h.members_pairs h.json.entries_pairs⟩
  | list =>
    cases harray : node.json.isArray with
    | true => exact .inl (h.pairsItems h.json.elements_pairs harray)
    | false => exact .inr ⟨harray, h.json.eq_of_no_list harray⟩
  | either => exact h.pairsEither
  | additional => exact h.pairsAdditional
  | dependencies =>
    exact (h.members_pairs h.json.dependencies_pairs).imp fun _ _ hentry =>
      ⟨hentry.1, hentry.2.pairsEither⟩

theorem Remarked.member?_rel (h : node.Remarked none node') (keyword : String)
    (known : schemaKeywords.contains keyword) (meant : annotationKeywords.contains keyword = false) :
    Option.Rel (Remarked (some (.within keyword))) (node.member? keyword)
      (node'.member? keyword) := by
  have hlookup := h.json.lookup keyword known meant
  rw [member?_eq_map, member?_eq_map]
  generalize node.json.entries.lookup keyword = found at hlookup
  generalize node'.json.entries.lookup keyword = found' at hlookup
  cases hlookup with
  | none => exact .none
  | some hvalue => exact .some (h.below hvalue _)

theorem Remarked.keywords (h : node.Remarked none node') (keyword : String)
    (looked : isLookedAt keyword) :
    Option.Rel ((Position.of keyword).Pairs (Remarked none)) (node.member? keyword)
      (node'.member? keyword) := by
  have hother := ne_definitions_of_isLookedAt looked
  rw [isLookedAt, List.contains_cons, Bool.and_eq_true, Bool.not_eq_true', Bool.or_eq_false_iff]
    at looked
  have hmember := h.member?_rel keyword looked.1 looked.2.2
  rw [Position.within, if_neg hother] at hmember
  generalize node.member? keyword = found at hmember
  generalize node'.member? keyword = found' at hmember
  cases hmember with
  | none => exact .none
  | some hnode => exact .some hnode.pairs

theorem Remarked.akin (h : node.Remarked none node') : node.Akin node' :=
  ⟨h.json.isObject_eq, h.json.eq_of_atom⟩

theorem Remarked.requiredNames_eq (h : node.Remarked none node') :
    Check.requiredNames node' = Check.requiredNames node := by
  have hlisted {node node' : Node} (h : node.Remarked none node') :=
    h.keywords "required" (by decide)
  refine Check.requiredNames_congr (hlisted h) (h.keywords "properties" (by decide)) ?_
  intro node node' hnode
  rw [value_eq_of_rel (hlisted hnode)]

theorem Remarked.declared (h : node.Remarked none node') :
    List.Forall₂ (Paired (Remarked none)) (Check.declared node) (Check.declared node') := by
  have hdefinitions := h.member?_rel "definitions" rfl rfl
  unfold Check.declared
  generalize node.member? "definitions" = found at hdefinitions
  generalize node'.member? "definitions" = found' at hdefinitions
  cases hdefinitions with
  | none => exact .nil
  | some htable => exact htable.members_pairs htable.json.entries_pairs

end Node

/-- Whether a reference is a fragment, which may lead to any place in the root. -/
def Json.isFragment : Json → Bool
  | .str name => name.toList.head? == some '#'
  | _ => false

theorem lookUp?_of_named {name : String} (named : (Json.str name).isFragment = false)
    (table : Definitions) (root : Option Node) :
    lookUp? (.str name) table root = .ok (table.lookup name) := by
  unfold lookUp?
  dsimp only
  split
  · rename_i hlookup
    rw [hlookup]
  · rename_i htext
    simp [Json.isFragment, htext] at named
  · rename_i hlookup _
    rw [hlookup]

/-- A reference that is no fragment is found by its name only, so the root does not matter. -/
theorem resolve?_remarked {table table' : Definitions}
    (h : List.Forall₂ (Paired (Node.Remarked none)) table table') {ref : Json}
    (named : ref.isFragment = false) (root root' : Node) :
    ∃ found found', resolve? ref table root = .ok found ∧ resolve? ref table' root' = .ok found' ∧
      Option.Rel (Node.Remarked none) found found' := by
  cases ref with
  | str name =>
    have hlookup := Paired.lookup h name
    unfold resolve?
    rw [lookUp?_of_named named, lookUp?_of_named named]
    refine ⟨_, _, rfl, rfl, ?_⟩
    generalize table.lookup name = found at hlookup
    generalize table'.lookup name = found' at hlookup
    cases hlookup with
    | none => exact .none
    | some hnode =>
      dsimp only
      rw [Option.filter_some, Option.filter_some, hnode.akin.isNull_eq]
      split
      · exact .some hnode
      · exact .none
  | _ => exact ⟨none, none, rfl, rfl, .none⟩

theorem Node.Remarked.isSame_eq {a a' b b' : Node} (ha : a.Remarked none a')
    (hb : b.Remarked none b') : a'.isSame b' = a.isSame b := by
  rw [isSame, isSame, ha.address, hb.address, ha.json.isObject_eq]
  congr 1
  rcases ha.akin.same_or_objects with hsame | ⟨members, members', hjson, hjson'⟩
  · rcases hb.akin.same_or_objects with hsame' | ⟨members, members', hjson, hjson'⟩
    · rw [hsame, hsame']
    · have hunique (members : Members) : (Json.obj members).isUnique = false := rfl
      rw [hjson, hjson', hunique, hunique, Bool.and_false, Bool.and_false]
      rfl
  · rw [hjson, hjson']
    rfl

/-- Runs with a schema and with one that differs in remarks. -/
def Pairing.remarked : Pairing :=
  .everywhere .exceptTypes (Node.Remarked none) fun value value' => value' = value

namespace Check

variable {options options' : Options} {root root' schema schema' : Node} {path : Path}

theorem corresponds_remarked
    (hoptions : options' = { options with definitions := options'.definitions })
    (hschema : schema.Remarked none schema') :
    Corresponds .remarked options options' path schema schema' := by
  refine ⟨?_, hschema.keywords "type" (by decide)⟩
  constructor
  case keywords =>
    intro keyword constraint
    exact hschema.keywords keyword (isLookedAt_of_isConstraint constraint)
  case requiredNames => exact hschema.requiredNames_eq
  case deeper => exact fun _ => id
  case akin => exact fun hnode => hnode.akin
  case resembles =>
    rintro _ _ rfl
    exact Json.resembles_self _ _
  case whole => exact fun _ _ _ => id
  case needed =>
    intro members members' name hvalue _ _
    cases hvalue
    rfl
  case seen => exact fun hvalue violation => ⟨.same violation, hvalue, rfl⟩
  case types =>
    intro named named' value value' _ _ hvalue hnodes
    refine ⟨.types path ?_, hvalue, rfl⟩
    rw [List.forall₂_map_left_iff, List.forall₂_map_right_iff]
    refine hnodes.imp fun node node' hnode => ?_
    cases hobject : node.json.isObject with
    | false => exact .inl (hnode.json.eq_of_atom hobject)
    | true => exact .inr ⟨rfl, hnode.json.isObject_eq.trans hobject⟩
  case omits =>
    rw [hoptions]
    rfl
  case validateFormat => rw [hoptions]
  case additionalItems =>
    intro step
    rw [hoptions]
    exact Position.pairs_self (Node.Remarked.refl none) .either options.additionalItems
  case additionalProperties =>
    intro step
    rw [hoptions]
    exact Position.pairs_self (Node.Remarked.refl none) .additional options.additionalProperties

/-- A reference that is no fragment is resolved on both sides or on neither. -/
theorem reference_remarked
    (hoptions : options' = { options with definitions := options'.definitions })
    (hdefinitions : List.Forall₂ (Paired (Node.Remarked none)) options.definitions
      options'.definitions)
    {ref : Json} (named : ref.isFragment = false) (value : Json) :
    Plan.Parallels .remarked (reference options root schema ref value path)
      (reference options' root' schema' ref value path) := by
  obtain ⟨found, found', hfound, hfound', hrel⟩ := resolve?_remarked hdefinitions named root root'
  have homitRefs : options'.omitRefs = options.omitRefs := by rw [hoptions]
  unfold reference
  rw [hfound, hfound', homitRefs]
  split
  · exact .clean
  · cases hrel with
    | none => exact .report ⟨.same _, rfl, rfl⟩
    | some htarget => exact .follow ⟨rfl, htarget, rfl⟩ rfl

theorem node_remarked
    (hoptions : options' = { options with definitions := options'.definitions })
    (hdefinitions : List.Forall₂ (Paired (Node.Remarked none)) options.definitions
      options'.definitions)
    (hschema : schema.Remarked none schema')
    (named : ∀ ref, schema.member? "$ref" = some ref → ref.json.isFragment = false) (value : Json) :
    Plan.Parallels .remarked (node options root schema value path)
      (node options' root' schema' value path) := by
  cases hobject : schema.json.isObject with
  | false =>
    refine atom_parallels (fun violation => ?_) hobject (hschema.json.eq_of_atom hobject)
    exact ⟨.same violation, rfl, rfl⟩
  | true =>
    have hcorresponds : Corresponds .remarked options options' path schema schema' :=
      corresponds_remarked hoptions hschema
    refine hcorresponds.node_parallels rfl hobject (hschema.json.isObject_eq.trans hobject) ?_
    intro _ ref ref' href href'
    have hsame := hschema.keywords "$ref" rfl
    rw [href, href'] at hsame
    cases hsame with
    | some hjson =>
      rw [show ref'.json = ref.json from hjson]
      exact reference_remarked hoptions hdefinitions (named ref href) value

/-- Whether no node that a run would apply has a fragment for a reference. -/
def NamesOnly (options : Options) (root schema : Node) : Prop :=
  ∀ node, Applied root options schema node → ∀ ref, node.member? "$ref" = some ref →
    ref.json.isFragment = false

/-- Runs with schemas that differ in remarks are in step: no other references than fragments
look at the root, which may be any other. -/
theorem lockstep_remarked : Lockstep .remarked (fun scope scope' =>
    scope.Paired (Node.Remarked none) scope' ∧ View.exceptTypes.Bounds scope.options.hook)
    NamesOnly := by
  constructor
  case hook => exact fun ⟨hscope, _⟩ => hscope.hook_eq
  case bounds => exact fun ⟨_, bounds⟩ => bounds
  case maxDepth => exact fun ⟨hscope, _⟩ => hscope.maxDepth_eq
  case trials => exact fun ⟨hscope, _⟩ => hscope.trials
  case trial => exact fun ⟨hscope, bounds⟩ => ⟨hscope.trial, bounds⟩
  case target => exact fun hlink => ⟨hlink.path, hlink.target⟩
  case follow =>
    rintro scope scope' link link' ⟨hscope, bounds⟩ hlink
    rcases hscope.follow Node.Remarked.isSame_eq hlink with
      hrefused | ⟨next, next', hfollow, hfollow', hnext⟩
    · exact .inl hrefused
    · obtain ⟨_, hsame⟩ := Scope.follow_ok hfollow
      exact .inr ⟨next, next', hfollow, hfollow', hnext, hsame ▸ bounds⟩
  case declare =>
    exact fun ⟨hscope, bounds⟩ hschema => ⟨hscope.declare hschema.declared, bounds⟩
  case plans =>
    rintro scope scope' schema schema' _ value path ⟨hscope, _⟩ hschema named rfl
    let inner := scope.withDefinitions (declared schema)
    let inner' := scope'.withDefinitions (declared schema')
    have hinner : inner.Paired (Node.Remarked none) inner' := hscope.declare hschema.declared
    have hplans : Plan.Parallels .remarked (node inner.options inner.root schema value path)
        (node inner'.options inner'.root schema' value path) :=
      node_remarked hinner.options hinner.definitions hschema (named schema (.self _ _)) value
    -- What the plan goes on with is applied in the definitions of the node.
    exact hplans.among fun node huses below happlied => named below (.onward value path huses happlied)

end Check

namespace Json.Remarked

variable {members members' : Members}

theorem declareTable_eq (h : Remarked none (.obj members) (.obj members')) :
    members'.declareTable = members.declareTable := by
  have hdefinitions : Option.Rel (Remarked (some .table)) (members.lookup "definitions")
      (members'.lookup "definitions") := h.lookup "definitions" rfl rfl
  unfold Members.declareTable
  generalize members.lookup "definitions" = found at hdefinitions
  generalize members'.lookup "definitions" = found' at hdefinitions
  cases hdefinitions with
  | none => rfl
  | some htable => cases htable <;> rfl

theorem eq_nil_of_eq_nil (h : Remarked none (.obj members) (.obj members'))
    (hnil : members' = []) : members = [] := by
  cases h with
  | same => exact hnil
  | _ => cases hnil

end Json.Remarked

/-- Nothing is applied where there is nothing to check. -/
theorem Check.Applied.eq_of_empty {root schema node : Node} {options : Options}
    (hjson : schema.json = .obj []) (applied : Applied root options schema node) :
    node = schema := by
  cases applied with
  | self => rfl
  | onward value path huses =>
    rw [Check.node, hjson] at huses
    cases huses

/-- The nodes that a run would apply from the root, be there anything to check or not. -/
theorem Given.applies_or_empty {members : Members} {given : Given} {options : Options}
    (hoptions : given.options = .ok options) (usable : members.declareTable) {node : Node}
    (applied : Check.Applied (.document .schema (.obj members))
      (options.withDefinitions (Check.declared (.document .schema (.obj members))))
      (.document .schema (.obj members)) node) :
    given.Applies (.obj members) node ∨ node.json = .obj [] := by
  cases members with
  | nil =>
    right
    rw [applied.eq_of_empty rfl]
    rfl
  | cons member rest =>
    left
    refine ⟨_, ?_, applied⟩
    rw [opening?_of_ne_nil hoptions (List.cons_ne_nil member rest), usable]
    rfl

/-- Where both schemas are usable and values may be nested at all, the runs are in step from
the start. -/
theorem ends_of_declareTable {members members' : Members} {given : Given} {options : Options}
    (hoptions : given.options = .ok options)
    (remarked : Json.Remarked none (.obj members) (.obj members')) (usable : members.declareTable)
    (nonempty : members' ≠ []) (bounds : View.exceptTypes.Bounds options.hook)
    (named : ∀ node, given.Applies (.obj members) node → ∀ ref, node.member? "$ref" = some ref →
      ref.json.isFragment = false)
    (shallow : members = [] → Options.exceeds 0 options.maxDepth = some false)
    (value : Json) (heard : List Notice) :
    View.exceptTypes.Ends ((validate (.obj members) value given).on heard)
      ((validate (.obj members') value given).on heard) := by
  let root := Node.document .schema (.obj members)
  let root' := Node.document .schema (.obj members')
  let opened := options.withDefinitions (Check.declared root)
  let opened' := options.withDefinitions (Check.declared root')
  let steps := enough (.obj members) value opened
  have hroot : root.Remarked none root' := ⟨rfl, remarked⟩
  have hscope : (Scope.start opened root).Paired (Node.Remarked none) (.start opened' root') :=
    ⟨Definitions.extend_paired (List.forall₂_same.mpr fun _ _ => ⟨rfl, .refl none _⟩)
      hroot.declared, rfl, rfl, .nil⟩
  have hrun : validate (.obj members) value given =
      Check.descend .chain steps (.start opened root) root value [] :=
    validateWith_eq_descend hoptions rfl rfl usable shallow (enough_pos _ _ _) value
  have hrun' : validateWith .chain (fun options => steps + enough (.obj members') value options)
      (.obj members') value given =
      Check.descend .chain (steps + enough (.obj members') value opened') (.start opened' root')
        root' value [] :=
    validateWith_eq_descend hoptions rfl rfl (remarked.declareTable_eq.trans usable)
      (fun hnil => absurd hnil nonempty) (Nat.add_pos_left (enough_pos _ _ _) _) value
  have hends : ((validate (.obj members) value given).on heard).1 ≠ .error .exhausted :=
    validateWith_ends Guard.chain_ignoresHook Guard.chain_wanes (.obj members) value given heard
  have hmore : ∀ options, enough (.obj members') value options ≤
      steps + enough (.obj members') value options := fun options => Nat.le_add_left _ _
  rw [← validate_eq_of_le hmore heard, hrun']
  rw [hrun] at hends ⊢
  refine Check.lockstep_remarked.descend (Nat.le_add_right _ _) ⟨hscope, bounds⟩ hroot
    (fun node happlied ref href => ?_) rfl heard heard (View.exceptTypes_self heard)
    (avoids_exhausted hends)
  rcases Given.applies_or_empty hoptions usable happlied with happlies | hnone
  · exact named node happlies ref href
  · rw [Node.member?, hnone] at href
    cases href

end JsonSchema
