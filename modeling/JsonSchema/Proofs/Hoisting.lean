import JsonSchema.Proofs.Restatement
import JsonSchema.Proofs.Union

/-! Names that are required. A property that says of itself that it is required says the same as
the list of the object that it belongs to, so what properties say can be moved to that list. -/
namespace JsonSchema

/-- Whether a schema says of itself that it is required. -/
def Json.isMarked (schema : Json) : Bool :=
  ((schema.entries.lookup "required").getD .null).isTrue

/-- A schema that no longer says whether it is required. -/
def Json.unmarked (schema : Json) : Json :=
  .obj (schema.entries.filter (!List.contains ["required"] ·.1))

namespace Members

/-- Whether a property says of itself that it is required, and is none of those that are listed. -/
def isMarked (listed : List String) (property : String × Json) : Bool :=
  property.2.isMarked && !listed.contains property.1

def unmark (listed : List String) (properties : Members) : Members :=
  properties.map fun property =>
    (property.1, if isMarked listed property then property.2.unmarked else property.2)

/-- The names of the properties that are marked and not listed, each of them once. -/
def markedNames (listed : List String) (properties : Members) : List String :=
  (keys (properties.filter (isMarked listed))).eraseDups

theorem markedNames_cons_of_marked {listed : List String} {name : String} {schema : Json}
    (marked : isMarked listed (name, schema)) (rest : Members) :
    markedNames listed ((name, schema) :: rest) = name :: markedNames (listed ++ [name]) rest := by
  have hothers : (keys (rest.filter (isMarked listed))).filter (!· == name) =
      keys (rest.filter (isMarked (listed ++ [name]))) := by
    rw [keys, keys, List.filter_map, List.filter_filter]
    congr 1
    refine List.filter_congr fun property _ => ?_
    rw [Function.comp_apply, isMarked, isMarked, Bool.eq_iff_iff]
    simp
    tauto
  rw [markedNames, List.filter_cons, if_pos marked, keys, List.map_cons, List.eraseDups_cons,
    ← keys, hothers, markedNames]

theorem markedNames_cons_of_not_marked {listed : List String} {property : String × Json}
    (unmarked : isMarked listed property = false) (rest : Members) :
    markedNames listed (property :: rest) = markedNames listed rest := by
  rw [markedNames, List.filter_cons, unmarked, markedNames]
  rfl

/-- Where all that are marked are listed, there is nothing to add. -/
theorem markedNames_eq_nil {listed : List String} {properties : Members}
    (h : ∀ property ∈ properties, isMarked listed property = false) :
    markedNames listed properties = [] := by
  have hnone : properties.filter (isMarked listed) = [] := by simpa using h
  rw [markedNames, hnone]
  rfl

end Members

theorem Json.isMarked_unmarked (schema : Json) : schema.unmarked.isMarked = false := by
  rw [Json.isMarked, Json.unmarked, Json.entries, Members.lookup_kept]
  rfl

namespace Node

/-- The names in the list of a node. -/
def listedNames (schema : Node) : List String :=
  Check.namesIn (schema.value "required")

/-- The names in the list of a node and then, in the order of its properties, those of the
properties that are marked and not in the list. -/
def hoistedNames (schema properties : Node) : List String :=
  schema.listedNames ++ Members.markedNames schema.listedNames properties.json.entries

/-- The node with all the names in its list, and without the marks that say the same. -/
def hoisted (schema properties : Node) : Node :=
  ⟨.obj (Members.put "required" (.arr ((schema.hoistedNames properties).map .str))
    (Members.put "properties" (.obj (Members.unmark schema.listedNames properties.json.entries))
      schema.json.entries)), schema.address⟩

theorem isMarked_json (node : Node) : node.json.isMarked = (node.value "required").isTrue := by
  unfold Json.isMarked value Json.entries
  cases node.json <;> rfl

theorem member?_unmarked {node : Node} {keyword : String} (h : keyword ≠ "required") :
    (⟨node.json.unmarked, node.address⟩ : Node).member? keyword = node.member? keyword := by
  have hkept : (["required"].contains keyword) = false := by simpa using h
  rw [member?_eq_map, member?_eq_map, Json.unmarked, Json.entries, Members.lookup_kept, hkept]
  rfl

variable {schema properties : Node}

theorem member?_hoisted (keyword : String) :
    (schema.hoisted properties).member? keyword =
      if keyword = "required" then
        some (schema.below (.key "required") (.arr ((schema.hoistedNames properties).map .str)))
      else if keyword = "properties" then
        some (schema.below (.key "properties")
          (.obj (Members.unmark schema.listedNames properties.json.entries)))
      else schema.member? keyword := by
  have hput := member?_put ⟨.obj (Members.put "properties"
    (.obj (Members.unmark schema.listedNames properties.json.entries)) schema.json.entries),
    schema.address⟩ "required" (.arr ((schema.hoistedNames properties).map .str)) keyword
  rw [schema.member?_put] at hput
  exact hput

end Node

namespace Check

/-- By induction on the properties: those that are marked come after the names so far, which they
are added to. -/
theorem markedNames_eq (names : List String) (properties : List (String × Node)) :
    markedNames names properties =
      names ++ Members.markedNames names (properties.map fun (name, node) => (name, node.json)) := by
  induction properties generalizing names with
  | nil => exact (List.append_nil names).symm
  | cons property rest ih =>
    obtain ⟨name, node⟩ := property
    rw [markedNames, ← Node.isMarked_json, List.map_cons]
    change (if Members.isMarked names (name, node.json) then _ else _) = _
    cases hmarked : Members.isMarked names (name, node.json) with
    | false =>
      rw [Members.markedNames_cons_of_not_marked hmarked]
      exact ih names
    | true =>
      rw [Members.markedNames_cons_of_marked hmarked, if_pos rfl, ih, List.append_assoc,
        List.singleton_append]

theorem namesIn_strings (names : List String) : namesIn (.arr (names.map .str)) = names := by
  rw [namesIn, List.filterMap_map]
  exact List.filterMap_some

variable {schema properties : Node}

/-- The names that a node requires are those that it would require with its properties' marks moved
to its list. -/
theorem requiredNames_eq (declares : schema.member? "properties" = some properties) :
    requiredNames schema = schema.hoistedNames properties := by
  have hentries : properties.members.map (fun (name, node) => (name, node.json)) =
      properties.json.entries := by
    rw [Node.members_eq_map, List.map_map]
    exact List.map_id _
  rw [requiredNames, markedNames_eq, Check.properties, declares, Option.map_some,
    Option.getD_some, hentries]
  rfl

theorem requiredNames_hoisted (declares : schema.member? "properties" = some properties) :
    requiredNames (schema.hoisted properties) = requiredNames schema := by
  let listed := schema.listedNames
  have hlisted : (schema.hoisted properties).listedNames = schema.hoistedNames properties := by
    rw [Node.listedNames, Node.value_eq, Node.member?_hoisted, if_pos rfl]
    exact namesIn_strings _
  have hnew : ∀ property ∈ Members.unmark listed properties.json.entries,
      Members.isMarked (schema.hoistedNames properties) property = false := by
    simp only [Members.unmark, List.forall_mem_map]
    intro property _
    cases hmarked : Members.isMarked listed property with
    | true => rw [if_pos rfl, Members.isMarked, Json.isMarked_unmarked, Bool.false_and]
    | false =>
      rw [Members.isMarked, Bool.and_eq_false_iff] at hmarked ⊢
      refine hmarked.imp id fun hname => ?_
      simp only [Bool.not_eq_false', List.contains_iff_mem] at hname ⊢
      exact List.mem_append_left _ hname
  have hdeclares := @Node.member?_hoisted schema properties "properties"
  rw [if_neg (by decide), if_pos rfl] at hdeclares
  rw [requiredNames_eq hdeclares, requiredNames_eq declares, Node.hoistedNames, hlisted]
  change _ ++ Members.markedNames _ (Members.unmark listed properties.json.entries) = _
  rw [Members.markedNames_eq_nil hnew, List.append_nil]

end Check

namespace Node

/-- What the nodes come to when marks are moved to the list of one of them: that one, its marked
properties, and all others as they are. -/
inductive Hoists : Node → Node → Prop
  | same (node : Node) : Hoists node node
  | unmarked {node : Node} : node.json.isMarked → Hoists node ⟨node.json.unmarked, node.address⟩
  | hoisted {schema properties : Node} : schema.member? "properties" = some properties →
      properties.json.isObject → Hoists schema (schema.hoisted properties)

variable {schema schema' properties : Node}

/-- The properties that are marked in a node, beside those of the hoisted one. -/
theorem properties_hoists (declares : schema.member? "properties" = some properties) :
    List.Forall₂ (Paired Hoists) properties.members (schema.below (.key "properties")
      (.obj (Members.unmark schema.listedNames properties.json.entries))).members := by
  rw [member?_eq_map] at declares
  obtain ⟨json, _, rfl⟩ := Option.map_eq_some_iff.mp declares
  refine members_pairs ?_
  change List.Forall₂ _ json.entries (json.entries.map _)
  rw [List.forall₂_map_right_iff, List.forall₂_same]
  refine fun property _ => ⟨rfl, fun step => ?_⟩
  dsimp only
  split
  · rename_i hmarked
    exact .unmarked (Bool.and_eq_true_iff.mp hmarked).1
  · exact .same _

theorem Hoists.akin (h : schema.Hoists schema') : schema.Akin schema' := by
  cases h with
  | same => exact ⟨rfl, fun _ => rfl⟩
  | unmarked marked =>
    cases hjson : schema.json with
    | obj members => exact ⟨by rw [hjson]; rfl, fun atom => by rw [hjson] at atom; cases atom⟩
    | _ =>
      rw [hjson] at marked
      cases marked
  | hoisted declares _ =>
    obtain ⟨members, hjson⟩ := Check.obj_of_member? declares
    exact ⟨by rw [hjson]; rfl, fun atom => by rw [hjson] at atom; cases atom⟩

/-- A mark is no list, so without it a node requires the same names. -/
theorem Hoists.requiredNames_eq (h : schema.Hoists schema') :
    Check.requiredNames schema' = Check.requiredNames schema := by
  cases h with
  | same => rfl
  | unmarked marked =>
    have hlisted : Check.namesIn (schema.value "required") = [] := by
      rw [isMarked_json] at marked
      cases hvalue : schema.value "required" with
      | arr _ =>
        rw [hvalue] at marked
        cases marked
      | _ => rfl
    have hnone : (⟨schema.json.unmarked, schema.address⟩ : Node).value "required" = .null := by
      rw [value, Json.unmarked]
      dsimp only
      rw [Members.lookup_kept]
      rfl
    rw [Check.requiredNames, Check.requiredNames, hlisted, hnone, Check.properties,
      Check.properties, member?_unmarked (by decide)]
    rfl
  | hoisted declares _ => exact Check.requiredNames_hoisted declares

/-- Keywords that hold no properties and no names are the same. -/
theorem Hoists.member?_eq (h : schema.Hoists schema') {keyword : String}
    (other : keyword ≠ "required") (other' : keyword ≠ "properties") :
    schema'.member? keyword = schema.member? keyword := by
  cases h with
  | same => rfl
  | unmarked _ => exact member?_unmarked other
  | hoisted _ _ => rw [member?_hoisted, if_neg other, if_neg other']

/-- All other keywords hold what they held, but for the properties that lose their marks. -/
theorem Hoists.keywords (h : schema.Hoists schema') {keyword : String}
    (other : keyword ≠ "required") :
    Option.Rel ((Position.of keyword).Pairs Hoists) (schema.member? keyword)
      (schema'.member? keyword) := by
  have self (found : Option Node) : Option.Rel ((Position.of keyword).Pairs Hoists) found found := by
    cases found with
    | none => exact .none
    | some node => exact .some (Position.pairs_self .same _ node)
  by_cases hproperties : keyword = "properties"
  · subst hproperties
    cases h with
    | same => exact self _
    | unmarked _ =>
      rw [member?_unmarked other]
      exact self _
    | hoisted declares object =>
      rw [member?_hoisted, if_neg other, if_pos rfl, declares]
      exact .some ⟨object.symm, properties_hoists declares⟩
  · rw [h.member?_eq other hproperties]
    exact self _

theorem Hoists.declared_eq (h : schema.Hoists schema') :
    Check.declared schema' = Check.declared schema := by
  rw [Check.declared, Check.declared, h.member?_eq (by decide) (by decide)]

end Node

/-- Runs with nodes and with what they come to when marks are moved. -/
def Pairing.hoisted : Pairing where
  view := .exceptSchemas
  nodes _ := Node.Hoists
  values value value' := value' = value
  links link link' := link' = link

namespace Check

variable {options : Options} {root schema schema' : Node} {path : Path}

theorem corresponds_hoisted (hschema : schema.Hoists schema') :
    Corresponds .hoisted options options path schema schema' := by
  refine ⟨?_, hschema.keywords (show "type" ≠ "required" by decide)⟩
  constructor
  case keywords => exact fun keyword constraint => hschema.keywords (by rintro rfl; cases constraint)
  case requiredNames => exact hschema.requiredNames_eq
  case deeper => exact fun _ => id
  case akin => exact fun hnode => hnode.akin
  case resembles =>
    rintro _ _ rfl
    exact Json.resembles_self _ _
  case whole => exact fun _ _ _ => id
  case needed =>
    intro members members' name hvalue _ _
    cases hvalue
    rfl
  case seen =>
    rintro _ _ rfl _
    rfl
  case types =>
    rintro named named' value _ hnamed hnamed' rfl _
    rw [hschema.member?_eq (by decide) (by decide), hnamed] at hnamed'
    cases hnamed'
    rfl
  case omits => rfl
  case validateFormat => rfl
  case additionalItems => exact fun _ => Position.pairs_self .same .either options.additionalItems
  case additionalProperties =>
    exact fun _ => Position.pairs_self .same .additional options.additionalProperties

theorem reference_hoisted (ref value : Json) :
    Plan.Parallels .hoisted (reference options root schema ref value path)
      (reference options root schema' ref value path) := by
  unfold reference
  split
  · exact .clean
  · split
    · exact .fault _
    · exact .report rfl
    · exact .follow rfl rfl

theorem node_hoisted (hschema : schema.Hoists schema') (value : Json) :
    Plan.Parallels .hoisted (node options root schema value path)
      (node options root schema' value path) := by
  cases hobject : schema.json.isObject with
  | false => exact atom_parallels (fun _ => rfl) hobject (hschema.akin.atom hobject)
  | true =>
    refine (corresponds_hoisted hschema).node_parallels rfl hobject
      (hschema.akin.isObject.trans hobject) fun _ ref ref' href href' => ?_
    rw [hschema.member?_eq (by decide) (by decide), href] at href'
    cases href'
    exact reference_hoisted ref.json value

/-- Runs with marks and with lists instead are in step. -/
theorem lockstep_hoisted :
    Lockstep .hoisted (fun scope scope' => scope' = scope ∧
      View.exceptSchemas.Bounds scope.options.hook) fun _ _ _ => True := by
  refine .of_same (fun options => View.exceptSchemas.Bounds options.hook) (fun bounds => bounds)
    (fun hlink => hlink) (fun _ => .same _) (fun hschema => hschema.declared_eq)
    (fun _ bounds => bounds) ?_
  rintro options root schema schema' _ value path - hschema - rfl
  exact (node_hoisted hschema value).among fun _ _ => trivial

end Check

namespace Session

end Session

end JsonSchema
