import JsonSchema.Proofs.Counterpart

/-! Schemas with their references replaced by what they lead to, and that again without
references. Each keyword still holds what it held, with expanded schemas in place of schemas. -/
namespace JsonSchema

namespace Json

def elements : Json → List Json
  | .arr items => items
  | _ => []

def entries : Json → Members
  | .obj members => members
  | _ => []

def mapElements (f : Json → Json) : Json → Json
  | .arr items => .arr (items.map f)
  | json => json

def mapEntries (f : Json → Json) : Json → Json
  | .obj members => .obj (members.map fun (name, value) => (name, f value))
  | json => json

/-- Applies a function to each item of an array, or to what is no array. -/
def mapEither (f : Json → Json) (json : Json) : Json :=
  if json.isArray then json.mapElements f else f json

theorem mapElements_id (json : Json) : json.mapElements id = json := by
  cases json <;> simp [mapElements]

theorem mapEntries_id (json : Json) : json.mapEntries id = json := by
  cases json <;> simp [mapEntries]

theorem mapEither_id : mapEither id = id := by
  funext json
  rw [mapEither, mapElements_id, id, ite_self]

/-- The items of an array, or what is no array. -/
def either (json : Json) : List Json :=
  if json.isArray then json.elements else [json]

end Json

namespace Position

/-- The schemas in the value of a keyword. -/
def schemas (position : Position) (value : Json) : List Json :=
  match position with
  | .data => []
  | .table => Members.values value.entries
  | .list => value.elements
  | .either => value.either
  | .additional => if isTable value then Members.values value.entries else [value]
  | .dependencies => (Members.values value.entries).flatMap Json.either

/-- The value of a keyword with a function applied to the schemas in it. -/
def map (f : Json → Json) (position : Position) (value : Json) : Json :=
  match position with
  | .data => value
  | .table => value.mapEntries f
  | .list => value.mapElements f
  | .either => value.mapEither f
  | .additional => if isTable value then value.mapEntries f else f value
  | .dependencies => value.mapEntries (Json.mapEither f)

theorem map_id (position : Position) (value : Json) : position.map id value = value := by
  cases position with
  | data => rfl
  | table => exact value.mapEntries_id
  | list => exact value.mapElements_id
  | either => exact congrFun Json.mapEither_id value
  | additional => rw [map, Json.mapEntries_id, id, ite_self]
  | dependencies => rw [map, Json.mapEither_id, Json.mapEntries_id]

end Position

/-- The value of a keyword with one function applied to the schemas in it, and another one to
definitions. -/
def Json.atKeyword (f g : Json → Json) (keyword : String) (value : Json) : Json :=
  if keyword = "definitions" then value.mapEntries g else (Position.of keyword).map f value

def Members.mapSchemas (f g : Json → Json) (members : Members) : Members :=
  members.map fun member => (member.1, member.2.atKeyword f g member.1)

theorem Members.lookup_mapSchemas (f g : Json → Json) (members : Members) (name : String) :
    (members.mapSchemas f g).lookup name = (members.lookup name).map (Json.atKeyword f g name) := by
  induction members with
  | nil => rfl
  | cons member rest ih =>
    obtain ⟨keyword, value⟩ := member
    rw [mapSchemas] at ih
    rw [mapSchemas, List.map_cons, List.lookup_cons, List.lookup_cons, ih]
    cases hname : name == keyword with
    | true =>
      rw [eq_of_beq hname]
      rfl
    | false => rfl

/-- The members that are kept are those whose names are none of some names. -/
theorem Members.lookup_kept (names : List String) (members : Members) (name : String) :
    List.lookup name (members.filter (!names.contains ·.1)) =
      if names.contains name then none else members.lookup name := by
  induction members with
  | nil => simp
  | cons member rest ih =>
    obtain ⟨key, value⟩ := member
    rw [List.filter_cons, List.lookup_cons]
    dsimp only
    by_cases hname : name = key
    · subst hname
      cases hkept : names.contains name <;> simp only [hkept] at ih
      · simp
      · exact ih
    · have hother : (name == key) = false := beq_eq_false_iff_ne.mpr hname
      rw [hother]
      cases hkept : names.contains key
      · rw [Bool.not_false, if_pos rfl, List.lookup_cons, hother]
        exact ih
      · exact ih

/-- The reference that governs a schema: one beside which no other combinator stands. -/
def governingReference? (members : Members) : Option Json :=
  if Check.combinators.any members.has then none else members.lookup "$ref"

theorem governingReference?_eq_some_iff {members : Members} {ref : Json} :
    governingReference? members = some ref ↔
      (∀ keyword ∈ Check.combinators, members.lookup keyword = none) ∧
        members.lookup "$ref" = some ref := by
  have hany : Check.combinators.any members.has = false ↔
      ∀ keyword ∈ Check.combinators, members.lookup keyword = none := by
    rw [List.any_eq_false]
    refine forall₂_congr fun keyword _ => ?_
    rw [Members.has_eq_isSome_lookup, Option.not_isSome_iff_eq_none]
  unfold governingReference?
  cases hcombined : Check.combinators.any members.has with
  | true =>
    rw [← hany, hcombined]
    simp
  | false =>
    rw [← hany, hcombined]
    simp

theorem governingReference?_mapSchemas (f g : Json → Json) (members : Members) :
    governingReference? (members.mapSchemas f g) = governingReference? members := by
  have hhas : (members.mapSchemas f g).has = members.has := by
    funext name
    rw [Members.has_eq_isSome_lookup, Members.has_eq_isSome_lookup, Members.lookup_mapSchemas,
      Option.isSome_map]
  have hdata : Json.atKeyword f g "$ref" = id := funext fun value => rfl
  rw [governingReference?, governingReference?, hhas, Members.lookup_mapSchemas, hdata,
    Option.map_id]
  rfl

/-- A schema that declares definitions only if it may, and does not say of itself that it is
required. -/
structure Members.Plain (declares : Bool) (members : Members) : Prop where
  definitions : declares = false → members.lookup "definitions" = none
  required : ∀ b, members.lookup "required" ≠ some (.bool b)

/-- A schema is expanded to another one: its governing reference, which is none of those that
are being expanded, to the expanded target, and everything else schema by schema. A reference
may also be shared, if it leads to the expanded target on the other side. What stands beside it
may become anything then, as may definitions. -/
inductive Json.Expands (target target' : String → Option Json) :
    Bool → List String → Json → Json → Prop
  | atom {declares : Bool} {seen : List String} {json : Json} : json.isObject = false →
      Expands target target' declares seen json json
  | follow {declares : Bool} {seen : List String} {members : Members} {name : String}
      {found json : Json} : members.Plain declares →
      governingReference? members = some (.str name) → name ∉ seen → target name = some found →
      isSchemaLike found → Expands target target' false (name :: seen) found json →
      Expands target target' declares seen (.obj members) json
  | share {declares : Bool} {seen : List String} {members : Members} {name : String}
      {found found' : Json} (f g : Json → Json) : members.Plain declares →
      governingReference? members = some (.str name) → name ∉ seen → target name = some found →
      target' name = some found' → Expands target target' false (name :: seen) found found' →
      Expands target target' declares seen (.obj members) (.obj (members.mapSchemas f g))
  | keep {declares : Bool} {seen : List String} {members : Members} (f g : Json → Json) :
      members.Plain declares → governingReference? members = none →
      (∀ member ∈ members, ∀ part ∈ (Position.of member.1).schemas member.2,
        Expands target target' false seen part (f part)) →
      Expands target target' declares seen (.obj members) (.obj (members.mapSchemas f g))

def Members.isPlain (declares : Bool) (members : Members) : Bool :=
  (declares || (members.lookup "definitions").isNone) &&
    match members.lookup "required" with
    | some (.bool _) => false
    | _ => true

/-- A schema with all references expanded, as far as some number of steps goes. -/
def Json.expand (target : String → Option Json) : Nat → Json → Json
  | steps + 1, .obj members =>
    match governingReference? members with
    | some (.str name) => ((target name).map (expand target steps)).getD (.obj members)
    | _ => .obj (Members.mapSchemas (expand target steps) (expand target steps) members)
  | _, json => json

/-- Whether all references can be expanded within some number of steps. -/
def Json.expandable (target : String → Option Json) : Nat → Bool → List String → Json → Bool
  | 0, _, _, json => !json.isObject
  | steps + 1, declares, seen, .obj members =>
    Members.isPlain declares members &&
      match governingReference? members with
      | none => members.all fun (keyword, value) =>
          ((Position.of keyword).schemas value).all (expandable target steps false seen)
      | some (.str name) => !seen.contains name && (target name).any fun found =>
          isSchemaLike found && expandable target steps false (name :: seen) found
      | some _ => false
  | _, _, _, _ => true

theorem Members.plain_of_isPlain {declares : Bool} {members : Members}
    (h : members.isPlain declares) : members.Plain declares := by
  unfold isPlain at h
  rw [Bool.and_eq_true] at h
  constructor
  · intro hdeclares
    rw [hdeclares, Bool.false_or] at h
    exact Option.isNone_iff_eq_none.mp h.1
  · intro b hrequired
    rw [hrequired] at h
    exact Bool.false_ne_true h.2

/-- What can be expanded is expanded. By induction on the number of steps. -/
theorem Json.expands_expand {target : String → Option Json} (target' : String → Option Json)
    {steps : Nat} {declares : Bool} {seen : List String} {json : Json}
    (h : json.expandable target steps declares seen) :
    json.Expands target target' declares seen (json.expand target steps) := by
  induction steps generalizing declares seen json with
  | zero =>
    cases json with
    | obj members => cases h
    | _ => exact .atom rfl
  | succ steps ih =>
    cases json with
    | obj members =>
      rw [expandable, Bool.and_eq_true] at h
      obtain ⟨hplain, hgoverns⟩ := h
      have plain := Members.plain_of_isPlain hplain
      rw [expand]
      cases governs : governingReference? members with
      | none =>
        rw [governs] at hgoverns
        refine .keep _ _ plain governs fun member hmember part hpart => ih ?_
        exact List.all_eq_true.mp (List.all_eq_true.mp hgoverns member hmember) part hpart
      | some ref =>
        rw [governs] at hgoverns
        cases ref with
        | str name =>
          dsimp only at hgoverns ⊢
          rw [Bool.and_eq_true, Bool.not_eq_true'] at hgoverns
          obtain ⟨hunseen, htarget⟩ := hgoverns
          have unseen : name ∉ seen := by
            intro hseen
            rw [List.contains_iff_mem.mpr hseen] at hunseen
            cases hunseen
          cases hfound : target name with
          | none =>
            rw [hfound] at htarget
            cases htarget
          | some found =>
            rw [hfound, Option.any_some, Bool.and_eq_true] at htarget
            exact .follow plain governs unseen hfound htarget.1 (ih htarget.2)
        | _ => cases hgoverns
    | _ => exact .atom rfl

theorem mem_schemaKeywords_of_position {keyword : String} (h : Position.of keyword ≠ .data) :
    schemaKeywords.contains keyword = true := by
  unfold Position.of at h
  split at h <;> first | rfl | exact absurd rfl h

theorem exists_member_of_isTable {json : Json} (h : isTable json) :
    ∃ members, json = .obj members ∧ members ≠ [] ∧
      (∀ name ∈ Members.keys members, schemaKeywords.contains name = false) ∧
      ∀ value ∈ Members.values members, value.isObject := by
  unfold isTable at h
  obtain ⟨members, rfl⟩ := Json.eq_obj_of_isObject (Bool.and_eq_true_iff.mp h).1
  refine ⟨members, rfl, ?_⟩
  simpa [isSchemaLike, Json.isObject, and_assoc] using h

/-- Tables remain tables where schemas that are objects become objects. -/
theorem isTable_mapEntries {json : Json} {f : Json → Json}
    (objects : ∀ value ∈ Members.values json.entries, (f value).isObject = value.isObject)
    (h : isTable json) : isTable (json.mapEntries f) := by
  obtain ⟨members, rfl, hne, hkeys, hvalues⟩ := exists_member_of_isTable h
  have hkeys' : Members.keys (members.map fun (name, value) => (name, f value)) =
      Members.keys members := by
    rw [Members.keys, List.map_map]
    rfl
  have hvalues' : Members.values (members.map fun (name, value) => (name, f value)) =
      (Members.values members).map f := by
    rw [Members.values, Members.values, List.map_map, List.map_map]
    rfl
  have hall : ((Members.values members).map f).all Json.isObject = true := by
    rw [List.all_map, List.all_eq_true]
    exact fun value hvalue => (objects value hvalue).trans (hvalues value hvalue)
  have hany : (Members.keys members).any schemaKeywords.contains = false :=
    List.any_eq_false.mpr fun name hname => by rw [hkeys name hname]; exact Bool.false_ne_true
  simp only [isTable, Json.mapEntries, Json.isObject, isSchemaLike, hkeys', hvalues', hall, hany]
  cases members with
  | nil => exact absurd rfl hne
  | cons member rest => rfl

/-- What is looked at in a schema before it is entered. -/
structure Json.SameShape (json json' : Json) : Prop where
  isObject : json'.isObject = json.isObject
  isArray : json'.isArray = json.isArray
  isTable : isTable json' = isTable json

namespace Members

theorem keys_mapSchemas (f g : Json → Json) (members : Members) :
    (members.mapSchemas f g).keys = members.keys := by
  rw [keys, mapSchemas, List.map_map]
  rfl

/-- Where no keyword stands, there are no schemas. -/
theorem mapSchemas_eq_self {members : Members} (f g : Json → Json)
    (h : members.keys.any schemaKeywords.contains = false) : members.mapSchemas f g = members := by
  have hid : members.map id = members := List.map_id members
  rw [mapSchemas]
  conv_rhs => rw [← hid]
  apply List.map_congr_left
  intro member hmember
  have hkeyword : schemaKeywords.contains member.1 = false := by
    simpa using List.any_eq_false.mp h member.1 (List.mem_map_of_mem hmember)
  have hdata : Position.of member.1 = .data := by
    by_contra hposition
    rw [mem_schemaKeywords_of_position hposition] at hkeyword
    cases hkeyword
  have hother : member.1 ≠ "definitions" := by
    intro heq
    rw [heq] at hkeyword
    cases hkeyword
  rw [Json.atKeyword, if_neg hother, hdata]
  rfl

theorem isSchemaLike_mapSchemas (f g : Json → Json) (members : Members) :
    isSchemaLike (.obj (members.mapSchemas f g)) = isSchemaLike (.obj members) := by
  cases hany : members.keys.any schemaKeywords.contains with
  | true =>
    rw [isSchemaLike, isSchemaLike, keys_mapSchemas, hany, Bool.or_true, Bool.or_true]
    rfl
  | false => rw [mapSchemas_eq_self f g hany]

/-- A schema that is not said to be required is not said to be so whatever its schemas become. -/
theorem Plain.not_required {declares : Bool} {members : Members} (plain : members.Plain declares) :
    ((members.lookup "required").getD .null).isTrue = false := by
  cases hlookup : members.lookup "required" with
  | none => rfl
  | some value =>
    cases value with
    | bool b => exact absurd hlookup (plain.required b)
    | _ => rfl

theorem lookup_required_mapSchemas (f g : Json → Json) (members : Members) :
    (members.mapSchemas f g).lookup "required" = members.lookup "required" := by
  have hdata : Json.atKeyword f g "required" = id := funext fun value => rfl
  rw [lookup_mapSchemas, hdata, Option.map_id]
  rfl

end Members

namespace Json.Expands

variable {target target' : String → Option Json} {declares : Bool} {seen : List String}
  {json json' : Json}

theorem isObject_eq (h : Expands target target' declares seen json json') :
    json'.isObject = json.isObject := by
  induction h with
  | atom => rfl
  | follow _ _ _ _ like _ ih =>
    rw [ih]
    unfold isSchemaLike at like
    split at like
    · rfl
    · cases like
  | share => rfl
  | keep => rfl

theorem eq_of_atom (h : Expands target target' declares seen json json')
    (atom : json.isObject = false) : json' = json := by
  cases h with
  | atom => rfl
  | _ => cases atom

theorem isArray_eq (h : Expands target target' declares seen json json') :
    json'.isArray = json.isArray := by
  have hobject := h.isObject_eq
  cases hjson : json.isObject with
  | false => rw [h.eq_of_atom hjson]
  | true =>
    obtain ⟨members, rfl⟩ := eq_obj_of_isObject hjson
    obtain ⟨members', rfl⟩ := eq_obj_of_isObject (hobject.trans hjson)
    rfl

/-- Neither a schema nor what it is expanded to says that it is required. -/
theorem not_required (h : Expands target target' declares seen json json') :
    ((json.entries.lookup "required").getD .null).isTrue = false ∧
      ((json'.entries.lookup "required").getD .null).isTrue = false := by
  have hmapped : ∀ {declares : Bool} {members : Members} (f g : Json → Json),
      members.Plain declares →
        (((members.mapSchemas f g).lookup "required").getD .null).isTrue = false := by
    intro declares members f g plain
    rw [Members.lookup_required_mapSchemas]
    exact plain.not_required
  induction h with
  | @atom _ _ json atom =>
    cases json with
    | obj members => cases atom
    | _ => exact ⟨rfl, rfl⟩
  | follow plain _ _ _ _ _ ih => exact ⟨plain.not_required, ih.2⟩
  | share f g plain => exact ⟨plain.not_required, hmapped f g plain⟩
  | keep f g plain => exact ⟨plain.not_required, hmapped f g plain⟩

/-- What is or is not like a schema remains so. -/
theorem isSchemaLike_eq (h : Expands target target' declares seen json json') :
    isSchemaLike json' = isSchemaLike json := by
  induction h with
  | atom => rfl
  | @follow _ _ members _ _ _ _ governs _ _ like _ ih =>
    have href : (Members.keys members).any schemaKeywords.contains = true := by
      unfold governingReference? at governs
      split at governs
      · cases governs
      · refine List.any_eq_true.mpr ⟨"$ref", ?_, rfl⟩
        exact List.mem_map_of_mem (Node.mem_of_lookup governs)
    rw [ih, like, isSchemaLike, href, Bool.or_true]
    rfl
  | share f g => exact Members.isSchemaLike_mapSchemas f g _
  | keep f g => exact Members.isSchemaLike_mapSchemas f g _

theorem sameShape (h : Expands target target' declares seen json json') : json.SameShape json' where
  isObject := h.isObject_eq
  isArray := h.isArray_eq
  isTable := by rw [isTable, isTable, h.isObject_eq, h.isSchemaLike_eq]

/-- What is no root declares nothing, and is expanded to what declares nothing. -/
theorem no_definitions (h : Expands target target' false seen json json') :
    json.entries.lookup "definitions" = none ∧ json'.entries.lookup "definitions" = none := by
  have hmapped : ∀ {members : Members} (f g : Json → Json), members.Plain false →
      (members.mapSchemas f g).lookup "definitions" = none := by
    intro members f g plain
    rw [Members.lookup_mapSchemas, plain.definitions rfl]
    rfl
  generalize hdeclares : false = declares at h
  induction h with
  | @atom _ _ json atom =>
    cases json with
    | obj members => cases atom
    | _ => exact ⟨rfl, rfl⟩
  | follow plain _ _ _ _ _ ih => exact ⟨plain.definitions hdeclares.symm, (ih rfl).2⟩
  | share f g plain =>
    subst hdeclares
    exact ⟨plain.definitions rfl, hmapped f g plain⟩
  | keep f g plain =>
    subst hdeclares
    exact ⟨plain.definitions rfl, hmapped f g plain⟩

end Json.Expands

namespace Node

variable {paired : Json → Json → Prop} {node node' : Node} {f : Json → Json}

theorem members_eq_map (node : Node) :
    node.members = node.json.entries.map fun (name, json) => (name, node.below (.key name) json) := by
  unfold members Json.entries
  cases node.json <;> rfl

theorem member?_eq_map (node : Node) (name : String) :
    node.member? name = (node.json.entries.lookup name).map (node.below (.key name)) := by
  unfold member? Json.entries
  cases node.json <;> rfl

/-- A member that is put into a node is all that changes in it. -/
theorem member?_put (node : Node) (name : String) (json : Json) (keyword : String) :
    (⟨.obj (Members.put name json node.json.entries), node.address⟩ : Node).member? keyword =
      if keyword = name then some (node.below (.key name) json) else node.member? keyword := by
  rw [member?_eq_map, member?_eq_map, Json.entries, Members.lookup_put]
  by_cases h : keyword = name
  · subst h
    rw [if_pos (beq_self_eq_true keyword), if_pos rfl]
    rfl
  · rw [if_neg (by simpa using h), if_neg h]
    rfl

theorem items_eq (node : Node) : node.items = node.itemsFrom 0 node.json.elements := by
  unfold items Json.elements
  cases node.json <;> rfl

theorem items_pairs {nodes : Node → Node → Prop}
    (h : List.Forall₂ (fun item item' => ∀ step, nodes (node.below step item)
      (node'.below step item')) node.json.elements node'.json.elements) :
    List.Forall₂ nodes node.items node'.items := by
  rw [items_eq, items_eq]
  generalize node.json.elements = items at h
  generalize node'.json.elements = items' at h
  generalize 0 = start
  induction h generalizing start with
  | nil => exact .nil
  | cons hitem _ ih => exact .cons (hitem _) (ih (start + 1))

theorem members_pairs {nodes : Node → Node → Prop}
    (h : List.Forall₂ (Paired fun value value' => ∀ step, nodes (node.below step value)
      (node'.below step value')) node.json.entries node'.json.entries) :
    List.Forall₂ (Paired nodes) node.members node'.members := by
  rw [members_eq_map, members_eq_map, List.forall₂_map_left_iff, List.forall₂_map_right_iff]
  refine h.imp ?_
  rintro ⟨_, value⟩ ⟨name, value'⟩ ⟨rfl, hvalue⟩
  exact ⟨rfl, hvalue _⟩

/-- Nodes of paired values. -/
def Holds (paired : Json → Json → Prop) (node node' : Node) : Prop :=
  paired node.json node'.json

/-- Arrays of schemas are paired item by item. -/
theorem pairsItems_map (harray : node.json.isArray)
    (hjson' : node'.json = node.json.mapElements f)
    (hparts : ∀ part ∈ node.json.elements, paired part (f part)) :
    node.PairsItems (Holds paired) node' := by
  obtain ⟨items, hjson⟩ := Json.eq_arr_of_isArray harray
  rw [hjson] at hjson' hparts
  refine ⟨harray, by rw [hjson']; rfl, items_pairs ?_⟩
  rw [hjson', hjson, Json.mapElements, Json.elements, Json.elements, List.forall₂_map_right_iff,
    List.forall₂_same]
  exact fun item hitem step => hparts item hitem

/-- Tables of schemas are paired entry by entry. -/
theorem tables_map {nodes : Node → Node → Prop} (hjson' : node'.json = node.json.mapEntries f)
    (hparts : ∀ value ∈ Members.values node.json.entries, ∀ step,
      nodes (node.below step value) (node'.below step (f value))) :
    List.Forall₂ (Paired nodes) node.members node'.members := by
  have hentries : node'.json.entries =
      node.json.entries.map fun (name, value) => (name, f value) := by
    rw [hjson']
    cases node.json <;> rfl
  refine members_pairs ?_
  rw [hentries, List.forall₂_map_right_iff, List.forall₂_same]
  exact fun member hmember => ⟨rfl, hparts _ (List.mem_map_of_mem hmember)⟩

variable (shape : ∀ json json', paired json json' → json.SameShape json')
include shape

theorem pairsEither_map (hjson' : node'.json = node.json.mapEither f)
    (hparts : ∀ part ∈ node.json.either, paired part (f part)) :
    node.PairsEither (Holds paired) node' := by
  unfold Json.mapEither at hjson'
  unfold Json.either at hparts
  cases harray : node.json.isArray with
  | true =>
    rw [if_pos harray] at hjson' hparts
    exact .inl (pairsItems_map harray hjson' hparts)
  | false =>
    rw [if_neg (by simp [harray])] at hjson' hparts
    have hpaired := hparts _ List.mem_cons_self
    rw [← hjson'] at hpaired
    exact .inr ⟨harray, (shape _ _ hpaired).isArray.trans harray, hpaired⟩

theorem pairsAdditional_map (hjson' : node'.json = Position.additional.map f node.json)
    (hparts : ∀ part ∈ Position.additional.schemas node.json, paired part (f part)) :
    node.PairsAdditional (Holds paired) node' := by
  unfold Position.map at hjson'
  unfold Position.schemas at hparts
  dsimp only at hjson' hparts
  cases htable : isTable node.json with
  | true =>
    rw [if_pos htable] at hjson' hparts
    refine .inl ⟨htable, ?_, tables_map hjson' fun value hvalue _ => hparts value hvalue⟩
    rw [hjson']
    exact isTable_mapEntries (fun value hvalue => (shape _ _ (hparts value hvalue)).isObject) htable
  | false =>
    rw [if_neg (by simp [htable])] at hjson' hparts
    have hpaired := hparts _ List.mem_cons_self
    rw [← hjson'] at hpaired
    exact .inr ⟨htable, (shape _ _ hpaired).isTable.trans htable, hpaired⟩

/-- What a keyword holds corresponds to what it holds with all schemas in it mapped. -/
theorem pairs_map (position : Position) (hjson' : node'.json = position.map f node.json)
    (hparts : ∀ part ∈ position.schemas node.json, paired part (f part)) :
    position.Pairs (Holds paired) node node' := by
  cases position with
  | data => exact hjson'
  | table =>
    refine ⟨?_, tables_map hjson' fun value hvalue _ => hparts value hvalue⟩
    rw [hjson']
    cases node.json <;> rfl
  | list =>
    cases harray : node.json.isArray with
    | true => exact .inl (pairsItems_map harray hjson' hparts)
    | false =>
      refine .inr ⟨harray, hjson'.trans ?_⟩
      cases hjson : node.json with
      | arr items =>
        rw [hjson] at harray
        cases harray
      | _ => rfl
  | either => exact pairsEither_map shape hjson' hparts
  | additional => exact pairsAdditional_map shape hjson' hparts
  | dependencies =>
    refine tables_map hjson' ?_
    intro value hvalue step
    refine pairsEither_map shape rfl fun part hpart => hparts part ?_
    exact List.mem_flatMap.mpr ⟨value, hvalue, hpart⟩

/-- Keyword by keyword, a node corresponds to one with all schemas in it mapped. -/
theorem keywords_mapSchemas {members : Members} {g : Json → Json} (hjson : node.json = .obj members)
    (hjson' : node'.json = .obj (members.mapSchemas f g))
    (hparts : ∀ member ∈ members, ∀ part ∈ (Position.of member.1).schemas member.2,
      paired part (f part)) (keyword : String) (other : keyword ≠ "definitions") :
    Option.Rel ((Position.of keyword).Pairs (Holds paired)) (node.member? keyword)
      (node'.member? keyword) := by
  rw [Node.member?, Node.member?, hjson, hjson']
  dsimp only
  rw [Members.lookup_mapSchemas]
  cases hlookup : members.lookup keyword with
  | none => exact .none
  | some value =>
    have hat : Json.atKeyword f g keyword value = (Position.of keyword).map f value := if_neg other
    rw [Option.map_some, Option.map_some, Option.map_some, hat]
    exact .some (pairs_map shape _ rfl (hparts _ (Node.mem_of_lookup hlookup)))

end Node

theorem Json.Expands.akin {target target' : String → Option Json} {seen : List String}
    {node node' : Node} (h : node.json.Expands target target' false seen node'.json) :
    node.Akin node' :=
  ⟨h.isObject_eq, h.eq_of_atom⟩

/-- No node says of itself that it is required, nor does what it expands to. -/
theorem Json.Expands.value_required {target target' : String → Option Json} {seen : List String}
    {node node' : Node} (h : node.json.Expands target target' false seen node'.json) :
    (node'.value "required").isTrue = (node.value "required").isTrue := by
  have hvalue : ∀ node : Node, node.value "required" =
      (node.json.entries.lookup "required").getD .null := by
    intro node
    unfold Node.value
    cases node.json <;> rfl
  have hrequired := h.not_required
  rw [hvalue, hvalue, hrequired.1, hrequired.2]

end JsonSchema
