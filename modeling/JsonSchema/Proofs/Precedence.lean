import JsonSchema.Proofs.Annotation
import JsonSchema.Proofs.Creation

/-! Keywords that are not looked at beside the one that governs a schema. Validation and creation
look for the governing keyword in different orders. Where they come to the same one, a schema
without the others has the same value made up for it. -/
namespace JsonSchema

/-- The keywords that validation does not look at beside a governing one: those that would govern
without it, and those that belong to a type. -/
def overruled (keyword : String) : List String :=
  Check.precedence.filter (· ∉ keyword :: preceding Check.precedence keyword) ++
    schemaKeywords.filter fun other => isLookedAt other && !Check.precedence.contains other

namespace Members

/-- A schema without a default that a keyword governs, for validation and for creation. Creation
looks past allowed values that are no list. -/
structure Governed (members : Members) (keyword : String) (value : Json) : Prop where
  undefaulted : members.lookup "default" = none
  present : members.lookup keyword = some value
  listed : keyword = "enum" → value.isArray
  governs : ∀ other ∈ preceding Check.precedence keyword, members.lookup other = none
  makes : ∀ other ∈ preceding Placeholder.precedence keyword, members.lookup other = none

end Members

/-- Where a value stands: where a schema is meant, as what is kept of one, or as the value of a
keyword. -/
inductive Place where
  | schema
  | kept
  | under (position : Position)

/-- A value with keywords taken away from schemas in it beside those that govern them. -/
inductive Json.Pruned : Place → Json → Json → Prop
  | same (place : Place) (json : Json) : Pruned place json json
  | whole {members members' : Members} : Pruned .kept (.obj members) (.obj members') →
      Pruned .schema (.obj members) (.obj members')
  | pruned {members members' : Members} {keyword : String} {value : Json} {names : List String} :
      keyword ∈ Check.precedence → Members.Governed members keyword value →
      names ⊆ overruled keyword →
      Pruned .kept (.obj (members.filter (!names.contains ·.1))) (.obj members') →
      Pruned .schema (.obj members) (.obj members')
  | keep {members members' : Members} (keyword : String) {value value' : Json} :
      Pruned (.under (.within keyword)) value value' →
      Pruned .kept (.obj members) (.obj members') →
      Pruned .kept (.obj ((keyword, value) :: members)) (.obj ((keyword, value') :: members'))
  | entry {entries entries' : Members} (name : String) {schema schema' : Json} :
      Pruned .schema schema schema' → Pruned (.under .table) (.obj entries) (.obj entries') →
      Pruned (.under .table) (.obj ((name, schema) :: entries)) (.obj ((name, schema') :: entries'))
  | item {items items' : List Json} {schema schema' : Json} :
      Pruned .schema schema schema' → Pruned (.under .list) (.arr items) (.arr items') →
      Pruned (.under .list) (.arr (schema :: items)) (.arr (schema' :: items'))
  | items {items items' : List Json} : Pruned (.under .list) (.arr items) (.arr items') →
      Pruned (.under .either) (.arr items) (.arr items')
  | alone {schema schema' : Json} : schema.isArray = false → Pruned .schema schema schema' →
      Pruned (.under .either) schema schema'
  | table {table table' : Json} : isTable table → Pruned (.under .table) table table' →
      Pruned (.under .additional) table table'
  | additional {schema schema' : Json} : isTable schema = false → Pruned .schema schema schema' →
      Pruned (.under .additional) schema schema'
  | dependency {entries entries' : Members} (name : String) {value value' : Json} :
      Pruned (.under .either) value value' →
      Pruned (.under .dependencies) (.obj entries) (.obj entries') →
      Pruned (.under .dependencies) (.obj ((name, value) :: entries))
        (.obj ((name, value') :: entries'))

namespace Json.Pruned

variable {place : Place} {json json' : Json} {members members' : Members}

theorem isObject_eq (h : Pruned place json json') : json'.isObject = json.isObject := by
  induction h with
  | alone _ _ ih => exact ih
  | table _ _ ih => exact ih
  | additional _ _ ih => exact ih
  | _ => rfl

theorem isArray_eq (h : Pruned place json json') : json'.isArray = json.isArray := by
  induction h with
  | alone _ _ ih => exact ih
  | table _ _ ih => exact ih
  | additional _ _ ih => exact ih
  | _ => rfl

theorem eq_of_atom (h : Pruned .schema json json') (atom : json.isObject = false) :
    json' = json := by
  cases h with
  | same => rfl
  | _ => cases atom

theorem eq_of_data (h : Pruned (.under .data) json json') : json' = json := by
  cases h
  rfl

theorem eq_of_no_list (h : Pruned (.under .list) json json') (atom : json.isArray = false) :
    json' = json := by
  cases h with
  | same => rfl
  | item => cases atom

theorem elements_pairs (h : Pruned (.under .list) json json') :
    List.Forall₂ (Pruned .schema) json.elements json'.elements := by
  generalize hplace : Place.under .list = place at h
  induction h with
  | same place json => exact List.forall₂_same.mpr fun _ _ => .same .schema _
  | item hschema _ _ ih => exact .cons hschema (ih hplace)
  | _ => cases hplace

theorem entries_pairs (h : Pruned (.under .table) json json') :
    List.Forall₂ (Paired (Pruned .schema)) json.entries json'.entries := by
  generalize hplace : Place.under .table = place at h
  induction h with
  | same place json => exact List.forall₂_same.mpr fun _ _ => ⟨rfl, .same .schema _⟩
  | entry name hschema _ _ ih => exact .cons ⟨rfl, hschema⟩ (ih hplace)
  | _ => cases hplace

/-- What is kept of a schema is the same keyword by keyword, but for what is taken away deeper. -/
theorem lookup (h : Pruned .kept json json') (keyword : String) :
    Option.Rel (Pruned (.under (.within keyword))) (json.entries.lookup keyword)
      (json'.entries.lookup keyword) := by
  generalize hplace : Place.kept = place at h
  induction h with
  | same place json =>
    cases json.entries.lookup keyword with
    | none => exact .none
    | some value => exact .some (.same _ value)
  | keep name hvalue _ _ ih =>
    rw [entries, entries, List.lookup_cons, List.lookup_cons]
    cases hname : keyword == name with
    | true =>
      cases eq_of_beq hname
      exact .some hvalue
    | false => exact ih hplace
  | _ => cases hplace

end Json.Pruned

namespace Members.Governed

variable {members members' : Members} {keyword : String} {value : Json} {names : List String}

theorem not_overruled (known : keyword ∈ Check.precedence) : keyword ∉ overruled keyword := by
  revert keyword
  decide

/-- What governs a schema governs it as well without the keywords that it overrules. -/
theorem kept (known : keyword ∈ Check.precedence) (governed : members.Governed keyword value)
    (overrules : names ⊆ overruled keyword) :
    Governed (members.filter (!names.contains ·.1)) keyword value where
  undefaulted := by rw [lookup_kept, governed.undefaulted, ite_self]
  present := by
    rw [lookup_kept, governed.present, if_neg fun h =>
      not_overruled known (overrules (List.contains_iff_mem.mp h))]
  listed := governed.listed
  governs other h := by rw [lookup_kept, governed.governs other h, ite_self]
  makes other h := by rw [lookup_kept, governed.makes other h, ite_self]

theorem pruned (governed : members.Governed keyword value)
    (h : Json.Pruned .kept (.obj members) (.obj members')) :
    ∃ value', Governed members' keyword value' ∧
      value.Pruned (.under (.within keyword)) value' := by
  have hnone (name : String) (hlookup : members.lookup name = none) :
      members'.lookup name = none := by
    have hrel : Option.Rel _ (members.lookup name) (members'.lookup name) := h.lookup name
    rw [hlookup] at hrel
    cases hlookup' : members'.lookup name with
    | none => rfl
    | some value =>
      rw [hlookup'] at hrel
      cases hrel
  have hrel : Option.Rel _ (members.lookup keyword) (members'.lookup keyword) := h.lookup keyword
  rw [governed.present] at hrel
  generalize hfound : members'.lookup keyword = found at hrel
  cases hrel with
  | @some _ value' hvalue =>
    exact ⟨value', ⟨hnone _ governed.undefaulted, hfound,
      fun henum => hvalue.isArray_eq.trans (governed.listed henum),
      fun other h => hnone other (governed.governs other h),
      fun other h => hnone other (governed.makes other h)⟩, hvalue⟩

end Members.Governed

namespace Placeholder

variable {node node' : Node}

theorem shape_of_governed {members : Members} {keyword : String} {value : Json}
    (known : keyword ∈ Check.precedence) (hjson : node.json = .obj members)
    (governed : members.Governed keyword value) :
    shape node = governedShape keyword (node.below (.key keyword) value) := by
  have hmember (name : String) :
      node.member? name = (members.lookup name).map (node.below (.key name)) := by
    rw [Node.member?, hjson]
  have hmissing {name : String} (h : members.lookup name = none) : node.member? name = none := by
    rw [hmember, h]
    rfl
  refine shape_of_first known (hmissing governed.undefaulted) ?_ governed.listed
    fun other h => hmissing (governed.makes other h)
  rw [hmember, governed.present]
  rfl

/-- Nodes of which the second has keywords taken away. -/
abbrev Prunes (place : Place) : Node → Node → Prop :=
  Node.Holds (Json.Pruned place)

/-- Shapes that are the same but for keywords taken away from the schemas that they hold. -/
inductive Shape.Pruned : Shape → Shape → Prop
  | value (json : Json) : Pruned (.value json) (.value json)
  | reference (ref : Json) : Pruned (.reference ref) (.reference ref)
  | schema {node node' : Node} : Prunes .schema node node' → Pruned (.schema node) (.schema node')
  | properties {members members' : List (String × Node)} :
      List.Forall₂ (Paired (Prunes .schema)) members members' →
      Pruned (.properties members) (.properties members')

theorem prunes_items (h : Prunes (.under .list) node node') :
    List.Forall₂ (Prunes .schema) node.items node'.items :=
  Node.items_pairs (h.elements_pairs.imp fun _ _ hitem _ => hitem)

theorem prunes_members (h : Prunes (.under .table) node node') :
    List.Forall₂ (Paired (Prunes .schema)) node.members node'.members :=
  Node.members_pairs (h.entries_pairs.imp fun _ _ hentry => ⟨hentry.1, fun _ => hentry.2⟩)

theorem ofCombinator_pruned (h : Prunes (.under .list) node node') :
    (ofCombinator node).Pruned (ofCombinator node') := by
  have hitems := prunes_items h
  unfold ofCombinator
  generalize node.items = items at hitems
  generalize node'.items = items' at hitems
  cases hitems with
  | nil => exact .value .null
  | cons hfirst _ => exact .schema hfirst

theorem governedShape_pruned {keyword : String} (known : keyword ∈ Check.precedence)
    (h : Prunes (.under (.within keyword)) node node') :
    (governedShape keyword node).Pruned (governedShape keyword node') := by
  simp only [Check.precedence, Check.combinators, List.cons_append, List.nil_append,
    List.mem_cons, List.not_mem_nil, or_false] at known
  rcases known with rfl | rfl | rfl | rfl | rfl
  · have hsame : node'.json = node.json := Json.Pruned.eq_of_data h
    rw [governedShape, governedShape, hsame]
    exact .value _
  · exact ofCombinator_pruned h
  · exact ofCombinator_pruned h
  · exact ofCombinator_pruned h
  · have hsame : node'.json = node.json := Json.Pruned.eq_of_data h
    rw [governedShape, governedShape, hsame]
    exact .reference _

theorem typeOf?_eq (node : Node) :
    typeOf? node =
      match node.member? "type" with
      | some type => some type
      | none => (inferredType? node.json.entries).map (⟨·, none⟩) := by
  unfold typeOf? Json.entries
  cases node.json <;> rfl

section

variable (kept : Prunes .kept node node')

include kept

theorem member?_pruned (keyword : String) :
    Option.Rel (Prunes (.under (.within keyword))) (node.member? keyword)
      (node'.member? keyword) := by
  have hlookup := kept.lookup keyword
  rw [Node.member?_eq_map, Node.member?_eq_map]
  generalize node.json.entries.lookup keyword = found at hlookup
  generalize node'.json.entries.lookup keyword = found' at hlookup
  cases hlookup with
  | none => exact .none
  | some hvalue => exact .some hvalue

theorem data_pruned {keyword : String} (data : Position.within keyword = .data) :
    (node'.member? keyword).map Node.json = (node.member? keyword).map Node.json := by
  have hmember := member?_pruned kept keyword
  rw [data] at hmember
  generalize node.member? keyword = found at hmember
  generalize node'.member? keyword = found' at hmember
  cases hmember with
  | none => rfl
  | some hvalue => exact congrArg some (Json.Pruned.eq_of_data hvalue)

theorem properties_pruned :
    List.Forall₂ (Paired (Prunes .schema)) (Check.properties node) (Check.properties node') := by
  have hmember : Option.Rel (Prunes (.under .table)) _ _ := member?_pruned kept "properties"
  unfold Check.properties
  generalize node.member? "properties" = found at hmember
  generalize node'.member? "properties" = found' at hmember
  cases hmember with
  | none => exact .nil
  | some htable => exact prunes_members htable

theorem inferredType?_pruned :
    inferredType? node'.json.entries = inferredType? node.json.entries ∨
      (node.member? "type").isSome := by
  have hhas (name : String) :
      Members.has node'.json.entries name = Members.has node.json.entries name := by
    have hlookup := kept.lookup name
    rw [Members.has_eq_isSome_lookup, Members.has_eq_isSome_lookup]
    generalize node.json.entries.lookup name = found at hlookup
    generalize node'.json.entries.lookup name = found' at hlookup
    cases hlookup <;> rfl
  have htype := kept.lookup "type"
  rw [Node.member?_eq_map, Option.isSome_map, inferredType?, inferredType?, hhas, hhas]
  generalize node.json.entries.lookup "type" = found at htype
  generalize node'.json.entries.lookup "type" = found' at htype
  cases htype with
  | none => exact .inl rfl
  | some _ => exact .inr rfl

theorem typeOf?_pruned : Option.Rel (Prunes (.under .list)) (typeOf? node) (typeOf? node') := by
  have hmember : Option.Rel (Prunes (.under .list)) _ _ := member?_pruned kept "type"
  have hinferred := inferredType?_pruned kept
  rw [typeOf?_eq, typeOf?_eq]
  generalize node.member? "type" = found at hmember hinferred
  generalize node'.member? "type" = found' at hmember
  cases hmember with
  | some htype => exact .some htype
  | none =>
    dsimp only
    rw [hinferred.resolve_right nofun]
    cases inferredType? node.json.entries with
    | none => exact .none
    | some type => exact .some (.same _ type)

theorem ofType_pruned {type type' : Node} (h : Prunes (.under .list) type type') :
    (ofType node type).Pruned (ofType node' type') := by
  have hproperties := Shape.Pruned.properties (properties_pruned kept)
  have harray : type'.json.isArray = type.json.isArray := h.isArray_eq
  unfold ofType
  rw [harray]
  cases hlist : type.json.isArray with
  | false =>
    have hsame : type'.json = type.json := Json.Pruned.eq_of_no_list h hlist
    simp only [Bool.false_eq_true, if_false, hsame]
    split
    · exact .value .null
    · exact hproperties
    · exact .value _
    · exact .value .null
  | true =>
    have hitems := prunes_items h
    simp only [if_true]
    generalize type.items = items at hitems
    generalize type'.items = items' at hitems
    cases hitems with
    | nil => exact .value .null
    | @cons first first' _ _ hfirst _ =>
      simp only [List.head?_cons]
      cases hobject : first.json.isObject with
      | true =>
        obtain ⟨members, hjson⟩ := Json.eq_obj_of_isObject hobject
        obtain ⟨members', hjson'⟩ := Json.eq_obj_of_isObject (hfirst.isObject_eq.trans hobject)
        simp only [hjson, hjson']
        exact .schema hfirst
      | false =>
        have hsame : first'.json = first.json := Json.Pruned.eq_of_atom hfirst hobject
        rw [hsame]
        split
        · rename_i hjson
          rw [hjson] at hobject
          cases hobject
        · exact hproperties
        · exact .value _
        · exact .value .null

theorem findSome?_pruned {keywords : List String}
    (lists : ∀ keyword ∈ keywords, Position.within keyword = .list) :
    Option.Rel (Prunes (.under .list)) (keywords.findSome? node.member?)
      (keywords.findSome? node'.member?) := by
  induction keywords with
  | nil => exact .none
  | cons keyword rest ih =>
    rw [List.forall_mem_cons] at lists
    have hmember := member?_pruned kept keyword
    rw [lists.1] at hmember
    rw [List.findSome?_cons, List.findSome?_cons]
    generalize node.member? keyword = found at hmember
    generalize node'.member? keyword = found' at hmember
    cases hmember with
    | none => exact ih lists.2
    | some h => exact .some h

/-- A schema of which nothing is taken away but deeper in it turns on the same. -/
theorem shape_of_kept : (shape node).Pruned (shape node') := by
  have hdefault := data_pruned kept (show Position.within "default" = .data from rfl)
  have href := data_pruned kept (show Position.within "$ref" = .data from rfl)
  have henum : node'.value "enum" = node.value "enum" := by
    rw [Node.value_eq, Node.value_eq,
      data_pruned kept (show Position.within "enum" = .data from rfl)]
  have hlists : ∀ keyword ∈ combinators, Position.within keyword = .list :=
    List.forall_mem_cons.mpr
      ⟨rfl, List.forall_mem_cons.mpr ⟨rfl, List.forall_mem_singleton.mpr rfl⟩⟩
  have hcombined := findSome?_pruned kept hlists
  have htype := typeOf?_pruned kept
  unfold shape
  rw [henum]
  generalize node.member? "default" = made at hdefault
  generalize node'.member? "default" = made' at hdefault
  generalize node.member? "$ref" = ref at href
  generalize node'.member? "$ref" = ref' at href
  generalize combinators.findSome? node.member? = combined at hcombined
  generalize combinators.findSome? node'.member? = combined' at hcombined
  cases made with
  | some value =>
    obtain ⟨value', rfl, hvalue⟩ := Option.map_eq_some_iff.mp hdefault
    simp only [hvalue]
    exact .value _
  | none =>
    cases Option.map_eq_none_iff.mp hdefault
    cases henum : node.value "enum" with
    | arr allowed => exact .value _
    | _ =>
      cases ref with
      | some ref =>
        obtain ⟨ref', rfl, hsame⟩ := Option.map_eq_some_iff.mp href
        simp only [hsame]
        exact .reference _
      | none =>
        cases Option.map_eq_none_iff.mp href
        cases hcombined with
        | some hmembers => exact ofCombinator_pruned hmembers
        | none =>
          dsimp only
          generalize typeOf? node = type at htype
          generalize typeOf? node' = type' at htype
          cases htype with
          | none => exact .value .null
          | some htype => exact ofType_pruned kept htype

end

/-- What a schema turns on remains when keywords are taken away from it. -/
theorem shape_pruned (h : Prunes .schema node node') : (shape node).Pruned (shape node') := by
  have honward (kept : node.json.Pruned .kept node'.json) : (shape node).Pruned (shape node') :=
    shape_of_kept kept
  unfold Prunes Node.Holds at h
  generalize hjson : node.json = json at h honward
  generalize hjson' : node'.json = json' at h honward
  cases h with
  | same => exact honward (.same .kept json)
  | whole kept => exact honward kept
  | pruned known governed overrules kept =>
    obtain ⟨value', hgoverned, hvalue⟩ := (governed.kept known overrules).pruned kept
    rw [shape_of_governed known hjson governed, shape_of_governed known hjson' hgoverned]
    exact governedShape_pruned known hvalue

/-- What two references lead to: nowhere both of them, or to schemas that are the same but for
keywords taken away. -/
inductive LeadAlike : Except BadIndex (Option Node) → Except BadIndex (Option Node) → Prop
  | unread (bad : BadIndex) : LeadAlike (.error bad) (.error bad)
  | nowhere : LeadAlike (.ok none) (.ok none)
  | target {target target' : Node} : Prunes .schema target target' →
      LeadAlike (.ok (some target)) (.ok (some target'))

/-- A reference that points into the root and is not bound by name leads alike from both roots. -/
def PointsAlike (table : Definitions) (root : Node) (table' : Definitions) (root' : Node)
    (node : Node) : Prop :=
  ∀ ref, shape node = .reference ref → ref.isFragment →
    (∀ sought ∈ namesSought ref, table.lookup sought = none) →
    LeadAlike (resolve? ref table root) (resolve? ref table' root')

section

variable {table table' : Definitions} {root root' : Node} {ref : Json}

/-- The schema of the first name that is sought and bound. -/
def bound? (ref : Json) (table : Definitions) : Option Node :=
  (namesSought ref).findSome? fun name => table.lookup name

/-- A name that is bound decides what a reference leads to. -/
theorem lookUp?_of_bound {top : Option Node} (h : bound? ref table = some node) :
    lookUp? ref table top = .ok (some node) := by
  cases ref with
  | str name =>
    unfold bound? namesSought at h
    unfold lookUp?
    dsimp only at h ⊢
    cases hname : table.lookup name with
    | some found =>
      split at h <;> simpa [hname] using h
    | none =>
      split at h
      · rename_i fragment hfragment
        rw [hfragment]
        cases htokens : Pointer.tokens? (Text.percentDecode [] fragment) with
        | none => simp [htokens, hname] at h
        | some tokens =>
          cases hdefined : Pointer.definitionName? tokens with
          | none => simp [htokens, hname, hdefined] at h
          | some defined =>
            have hlookup : table.lookup defined = some node := by
              simpa [htokens, hname, hdefined] using h
            simp [htokens, hdefined, hlookup]
      · simp [hname] at h
  | _ => cases h

theorem lookUp?_of_unbound {top : Option Node} (named : ref.isFragment = false)
    (h : bound? ref table = none) : lookUp? ref table top = .ok none := by
  cases ref with
  | str name =>
    rw [lookUp?_of_named named, List.findSome?_eq_none_iff.mp h name (mem_namesSought name)]
  | _ => rfl

theorem bound?_pruned (tables : List.Forall₂ (Paired (Prunes .schema)) table table')
    (ref : Json) : Option.Rel (Prunes .schema) (bound? ref table) (bound? ref table') := by
  unfold bound?
  induction namesSought ref with
  | nil => exact .none
  | cons name rest ih =>
    have hlookup := Paired.lookup tables name
    rw [List.findSome?_cons, List.findSome?_cons]
    generalize table.lookup name = found at hlookup
    generalize table'.lookup name = found' at hlookup
    cases hlookup with
    | none => exact ih
    | some h => exact .some h

theorem prunes_isNull (h : Prunes .schema node node') : node'.isNull = node.isNull := by
  cases hobject : node.json.isObject with
  | false =>
    have hsame : node'.json = node.json := Json.Pruned.eq_of_atom h hobject
    rw [Node.isNull, Node.isNull, hsame]
  | true =>
    obtain ⟨members, hjson⟩ := Json.eq_obj_of_isObject hobject
    obtain ⟨members', hjson'⟩ := Json.eq_obj_of_isObject (h.isObject_eq.trans hobject)
    rw [Node.isNull, Node.isNull, hjson, hjson']

theorem resolve?_pruned (tables : List.Forall₂ (Paired (Prunes .schema)) table table')
    (pointed : ref.isFragment → (∀ sought ∈ namesSought ref, table.lookup sought = none) →
      LeadAlike (resolve? ref table root) (resolve? ref table' root')) :
    LeadAlike (resolve? ref table root) (resolve? ref table' root') := by
  have hbound := bound?_pruned tables ref
  cases hnode : bound? ref table with
  | some node =>
    cases hnode' : bound? ref table' with
    | none =>
      rw [hnode, hnode'] at hbound
      cases hbound
    | some node' =>
      rw [hnode, hnode'] at hbound
      cases hbound with
      | some h =>
        unfold resolve?
        rw [lookUp?_of_bound hnode, lookUp?_of_bound hnode', Except.map, Except.map,
          Option.filter_some, Option.filter_some, prunes_isNull h]
        split
        · exact .target h
        · exact .nowhere
  | none =>
    cases hfragment : ref.isFragment with
    | true => exact pointed hfragment (List.findSome?_eq_none_iff.mp hnode)
    | false =>
      rw [hnode] at hbound
      cases hnode' : bound? ref table' with
      | some node' =>
        rw [hnode'] at hbound
        cases hbound
      | none =>
        unfold resolve?
        rw [lookUp?_of_unbound hfragment hnode, lookUp?_of_unbound hfragment hnode']
        exact .nowhere

/-- By induction on the steps: creation turns on the same at nodes that are the same but for
keywords taken away. -/
theorem create_pruned (tables : List.Forall₂ (Paired (Prunes .schema)) table table')
    {steps : Nat} {active : List Json} {following : List String}
    (pointers : Along table root (fun _ => PointsAlike table root table' root') following node)
    (h : Prunes .schema node node') :
    create table' root' steps active node' = create table root steps active node := by
  induction steps generalizing active following node node' with
  | zero => rfl
  | succ steps ih =>
    have hshapes := shape_pruned h
    generalize hshape : shape node = made at hshapes
    generalize hshape' : shape node' = made' at hshapes
    cases hshapes with
    | value json => rw [create_of_value hshape, create_of_value hshape']
    | schema hchild =>
      rw [create_of_schema hshape, create_of_schema hshape',
        ih ((along_schema_iff hshape).mp pointers).2 hchild]
    | properties hmembers =>
      have honward := ((along_properties_iff hshape).mp pointers).2
      rw [create_of_properties hshape, create_of_properties hshape']
      refine congrArg _ (mapM_congr ?_).symm
      refine ((List.forall₂_and_left _ _).mpr ⟨honward, hmembers⟩).imp ?_
      rintro ⟨_, child⟩ ⟨name, child'⟩ ⟨halong, rfl, hchild⟩
      dsimp only
      rw [ih halong hchild]
    | reference ref =>
      have hleads : LeadAlike (resolve? ref table root) (resolve? ref table' root') :=
        resolve?_pruned tables (pointers.here ref hshape)
      generalize hresolve : resolve? ref table root = found at hleads
      generalize hresolve' : resolve? ref table' root' = found' at hleads
      cases hleads with
      | unread bad => rw [create_of_unread hshape hresolve, create_of_unread hshape' hresolve']
      | nowhere =>
        rw [create_of_unresolved hshape hresolve, create_of_unresolved hshape' hresolve']
      | target htarget =>
        obtain ⟨name, rfl⟩ : ∃ name, ref = .str name := ⟨_, eq_str_of_resolve? hresolve⟩
        rw [create_of_resolved hshape hresolve, create_of_resolved hshape' hresolve',
          ih ((along_reference_iff hshape hresolve).mp pointers).2 htarget]

end

theorem declared_of_kept (kept : Prunes .kept node node') :
    List.Forall₂ (Paired (Prunes .schema)) (Check.declared node) (Check.declared node') := by
  have hmember : Option.Rel (Prunes (.under .table)) _ _ := member?_pruned kept "definitions"
  unfold Check.declared
  generalize node.member? "definitions" = found at hmember
  generalize node'.member? "definitions" = found' at hmember
  cases hmember with
  | none => exact .nil
  | some htable => exact prunes_members htable

/-- Definitions are never taken away. -/
theorem declared_pruned (h : Prunes .schema node node') :
    List.Forall₂ (Paired (Prunes .schema)) (Check.declared node) (Check.declared node') := by
  have honward (kept : node.json.Pruned .kept node'.json) := declared_of_kept kept
  unfold Prunes Node.Holds at h
  generalize hjson : node.json = json at h honward
  generalize hjson' : node'.json = json' at h honward
  cases h with
  | same => exact honward (.same .kept json)
  | whole kept => exact honward kept
  | @pruned members _ keyword _ names known governed overrules kept =>
    have hstays : names.contains "definitions" = false := by
      have hnot : ∀ keyword ∈ Check.precedence, "definitions" ∉ overruled keyword := by decide
      rw [Bool.eq_false_iff]
      exact fun h => hnot keyword known (overrules (List.contains_iff_mem.mp h))
    let remaining : Node := ⟨.obj (members.filter (!names.contains ·.1)), node.address⟩
    have hdeclared : Check.declared node = Check.declared remaining := by
      have hmember : node.member? "definitions" = remaining.member? "definitions" := by
        rw [Node.member?_eq_map, Node.member?_eq_map, hjson]
        change _ = Option.map _ (List.lookup "definitions" (members.filter (!names.contains ·.1)))
        rw [Members.lookup_kept, hstays]
        rfl
      rw [Check.declared, Check.declared, hmember]
    rw [hdeclared]
    refine declared_of_kept ?_
    rw [Prunes, Node.Holds, hjson']
    exact kept

/-- Keywords that a governing one overrules, for validation and for creation, make no difference
to the value that is made up for a schema, wherever they are taken away, as long as the references
that point into the schema lead to what they led to. -/
theorem createValue_pruned {schema schema' : Json} {given : Node} {definitions : Definitions}
    (readable : Options.table? given = .ok definitions) (h : Json.Pruned .schema schema schema')
    (pointers : Along (tableOf schema definitions) (.document .schema schema)
      (fun _ => PointsAlike (tableOf schema definitions) (.document .schema schema)
        (tableOf schema' definitions) (.document .schema schema')) [] (.document .schema schema)) :
    createValueWith schema' given = createValueWith schema given := by
  have hroots : Prunes .schema (.document .schema schema) (.document .schema schema') := h
  have htables : List.Forall₂ (Paired (Prunes .schema)) (tableOf schema definitions)
      (tableOf schema' definitions) :=
    Definitions.extend_paired
      (List.forall₂_same.mpr fun entry _ => ⟨rfl, .same .schema entry.2.json⟩)
      (declared_pruned hroots)
  rw [createValueWith_of_table? readable, createValueWith_of_table? readable]
  obtain ⟨steps, hsteps⟩ : ∃ steps, createValue schema definitions =
      create (tableOf schema definitions) (.document .schema schema) steps []
        (.document .schema schema) := ⟨_, rfl⟩
  have hsame : create (tableOf schema' definitions) (.document .schema schema') steps []
      (.document .schema schema') = create (tableOf schema definitions) (.document .schema schema)
        steps [] (.document .schema schema) := create_pruned htables pointers hroots
  rw [hsteps, ← hsame]
  refine createValue_eq_create ?_
  rw [hsame, ← hsteps]
  exact createValue_ends schema definitions

/-- A schema with keywords that are overruled: in a definition, in a property, and in a second one
that points to the first. -/
def crowdedSchema : Json :=
  .obj [
    ("definitions", .obj [("size", .obj [("allOf", .arr [.obj [("type", .str "integer")]]),
      ("anyOf", .null), ("minimum", .int 3)])]),
    ("properties", .obj [
      ("kind", .obj [("$ref", .str "size"), ("type", .str "number"),
        ("enum", .arr [.str "a", .str "b"])]),
      ("same", .obj [("oneOf", .arr [.obj [("$ref", .str "#/properties/kind")]]),
        ("items", .obj [])]),
      ("size", .obj [("$ref", .str "size")])])]

def clearedSchema : Json :=
  .obj [
    ("definitions", .obj [("size", .obj [("allOf", .arr [.obj [("type", .str "integer")]])])]),
    ("properties", .obj [
      ("kind", .obj [("enum", .arr [.str "a", .str "b"])]),
      ("same", .obj [("oneOf", .arr [.obj [("$ref", .str "#/properties/kind")]])]),
      ("size", .obj [("$ref", .str "size")])])]

theorem cleared_kind : Json.Pruned .schema
    (.obj [("$ref", .str "size"), ("type", .str "number"), ("enum", .arr [.str "a", .str "b"])])
    (.obj [("enum", .arr [.str "a", .str "b"])]) :=
  @Json.Pruned.pruned _ _ "enum" (.arr [.str "a", .str "b"]) ["$ref", "type"] (by decide)
    ⟨rfl, rfl, fun _ => rfl, by decide, by decide⟩ (by decide) (.same .kept _)

theorem cleared_crowded : Json.Pruned .schema crowdedSchema clearedSchema := by
  have hsize : Json.Pruned .schema
      (.obj [("allOf", .arr [.obj [("type", .str "integer")]]), ("anyOf", .null),
        ("minimum", .int 3)])
      (.obj [("allOf", .arr [.obj [("type", .str "integer")]])]) :=
    @Json.Pruned.pruned _ _ "allOf" (.arr [.obj [("type", .str "integer")]]) ["anyOf", "minimum"]
      (by decide) ⟨rfl, rfl, nofun, by decide, by decide⟩ (by decide) (.same .kept _)
  have hsame : Json.Pruned .schema
      (.obj [("oneOf", .arr [.obj [("$ref", .str "#/properties/kind")]]), ("items", .obj [])])
      (.obj [("oneOf", .arr [.obj [("$ref", .str "#/properties/kind")]])]) :=
    @Json.Pruned.pruned _ _ "oneOf" (.arr [.obj [("$ref", .str "#/properties/kind")]]) ["items"]
      (by decide) ⟨rfl, rfl, nofun, by decide, by decide⟩ (by decide) (.same .kept _)
  exact .whole (.keep "definitions" (.entry "size" hsize (.same _ _))
    (.keep "properties" (.entry "kind" cleared_kind (.entry "same" hsame (.same _ _)))
      (.same _ _)))

theorem createValue_pruned_crowded :
    createValueWith clearedSchema (.document .options .null) =
        createValueWith crowdedSchema (.document .options .null) ∧
      createValueWith crowdedSchema (.document .options .null) =
        .ok (.obj [("kind", .str "a"), ("same", .str "a"), ("size", .int 0)]) := by
  refine ⟨createValue_pruned rfl cleared_crowded ?_, rfl⟩
  have hvalue {following : List String} {node : Node} {json : Json}
      (h : shape node = .value json) :
      Along (tableOf crowdedSchema []) (.document .schema crowdedSchema)
        (fun _ => PointsAlike (tableOf crowdedSchema []) (.document .schema crowdedSchema)
          (tableOf clearedSchema []) (.document .schema clearedSchema)) following node :=
    along_of_value h fun ref hshape => nomatch h.symm.trans hshape
  refine (along_properties_iff rfl).mpr ⟨nofun, ?_⟩
  refine List.forall_mem_cons.mpr ⟨hvalue rfl, List.forall_mem_cons.mpr ⟨?_,
    List.forall_mem_singleton.mpr ?_⟩⟩
  · refine (along_schema_iff rfl).mpr ⟨nofun, (along_reference_iff rfl rfl).mpr ⟨?_, hvalue rfl⟩⟩
    rintro ref ⟨⟩ _ _
    exact .target cleared_kind
  · refine (along_reference_iff rfl rfl).mpr ⟨?_, (along_schema_iff rfl).mpr ⟨nofun, hvalue rfl⟩⟩
    rintro ref ⟨⟩ hfragment
    cases hfragment

/-- Creation follows a reference rather than the first of several schemas that govern beside it,
and a reference may point into what is overruled. -/
theorem overruled_keywords_make_a_difference :
    (createValueWith (.obj [("oneOf", .arr [.obj [("type", .str "string")]]), ("$ref", .str "N")])
        (.document .options (.obj [("N", .obj [("type", .str "number")])])) = .ok (.int 0) ∧
      createValueWith (.obj [("oneOf", .arr [.obj [("type", .str "string")]])])
        (.document .options (.obj [("N", .obj [("type", .str "number")])])) = .ok (.str "")) ∧
    createValueWith (.obj [("allOf", .arr [.obj [("$ref", .str "#/properties/a")]]),
        ("properties", .obj [("a", .obj [("type", .str "string")])])])
        (.document .options .null) = .ok (.str "") ∧
      createValueWith (.obj [("allOf", .arr [.obj [("$ref", .str "#/properties/a")]])])
        (.document .options .null) = .ok (.obj []) :=
  ⟨⟨rfl, rfl⟩, rfl, rfl⟩

end Placeholder

end JsonSchema
