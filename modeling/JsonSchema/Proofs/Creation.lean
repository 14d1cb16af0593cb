import JsonSchema.Placeholder
import JsonSchema.Proofs.Rank
import JsonSchema.Proofs.Sequence

/-! How a value is made up for a schema: what the schema turns on, step by step, and that it
ends within the budget that is computed for it. -/
namespace JsonSchema

/-- The governing keywords in the order in which validation looks for them. -/
def Check.precedence : List String :=
  combinators ++ ["$ref"]

/-- What an order puts before a keyword. -/
def preceding (order : List String) (keyword : String) : List String :=
  order.takeWhile (· ≠ keyword)

namespace Placeholder

variable {table : Definitions} {root node child : Node} {active : List Json} {ref json : Json}
  {members : List (String × Node)} {f : Fault}

/-- What a schema turns on stands in it. -/
def Shape.Within (node : Node) : Shape → Prop
  | .value _ => True
  | .reference ref => ∃ holder, node.Beneath holder ∧ ref = holder.json
  | .schema child => node.Beneath child
  | .properties members => ∀ member ∈ members, node.Beneath member.2

theorem ofCombinator_within (beneath : node.Beneath child) :
    (ofCombinator child).Within node := by
  unfold ofCombinator
  cases hitems : child.items with
  | nil => trivial
  | cons first rest =>
    exact beneath.trans (Node.beneath_of_mem_items (hitems ▸ List.mem_cons_self)).inside

theorem properties_within (node : Node) :
    (Shape.properties (Check.properties node)).Within node := by
  intro member hmember
  unfold Check.properties at hmember
  cases hproperties : node.member? "properties" with
  | none =>
    rw [hproperties] at hmember
    cases hmember
  | some properties =>
    rw [hproperties] at hmember
    exact (Node.beneath_of_member? hproperties).trans (Node.beneath_of_mem_members hmember).inside

theorem ofType_within {type : Node} (beneath : type.json.isArray → node.Beneath type) :
    (ofType node type).Within node := by
  unfold ofType
  cases harray : type.json.isArray with
  | false =>
    simp only [Bool.false_eq_true, if_false]
    split
    · trivial
    · exact properties_within node
    · trivial
    · trivial
  | true =>
    cases hitems : type.items with
    | nil =>
      simp [Shape.Within]
    | cons first rest =>
      simp only [if_true, List.head?_cons]
      split
      · exact (beneath harray).trans
          (Node.beneath_of_mem_items (hitems ▸ List.mem_cons_self)).inside
      · exact properties_within node
      · trivial
      · trivial

/-- A type is declared in the schema, or it is a name that its shape tells. -/
theorem typeOf?_beneath {type : Node} (h : typeOf? node = some type)
    (array : type.json.isArray) : node.Beneath type := by
  unfold typeOf? at h
  cases hdeclared : node.member? "type" with
  | some declared =>
    rw [hdeclared] at h
    cases h
    exact Node.beneath_of_member? hdeclared
  | none =>
    rw [hdeclared] at h
    cases hjson : node.json with
    | obj members =>
      have hlookup : members.lookup "type" = none := by
        simpa [Node.member?, hjson] using hdeclared
      simp only [hjson, inferredType?, hlookup] at h
      split at h
      · cases h
        cases array
      · split at h <;> cases h
        cases array
    | _ =>
      rw [hjson] at h
      cases h

theorem shape_within (node : Node) : (shape node).Within node := by
  unfold shape
  split
  · trivial
  · trivial
  · rename_i ref _ href _
    exact ⟨ref, Node.beneath_of_member? href, rfl⟩
  · cases hcombined : combinators.findSome? node.member? with
    | some members =>
      obtain ⟨keyword, _, hmember⟩ := List.exists_of_findSome?_eq_some hcombined
      exact ofCombinator_within (Node.beneath_of_member? hmember)
    | none =>
      cases htype : typeOf? node with
      | some type => exact ofType_within (typeOf?_beneath htype)
      | none => trivial

theorem shape_of_not_object (h : node.json.isObject = false) : shape node = .value .null := by
  have hmember (name : String) : node.member? name = none := by
    unfold Node.member?
    cases hjson : node.json <;> first | rfl | (rw [hjson] at h; cases h)
  have hvalue : node.value "enum" = .null := by
    rw [Node.value_eq, hmember]
    rfl
  have htype : typeOf? node = none := by
    unfold typeOf?
    rw [hmember]
    cases hjson : node.json <;> first | rfl | (rw [hjson] at h; cases h)
  have hcombined : combinators.findSome? node.member? = none :=
    List.findSome?_eq_none_iff.mpr fun name _ => hmember name
  simp only [shape, hmember, hvalue, hcombined, htype]

/-- The governing keywords in the order in which creation looks for them. -/
def precedence : List String :=
  ["enum", "$ref"] ++ combinators

def firstAllowed : Json → Json
  | .arr allowed => allowed.head?.getD .null
  | _ => .null

/-- What a schema turns on that a keyword governs. -/
def governedShape (keyword : String) (member : Node) : Shape :=
  if keyword = "enum" then .value (firstAllowed member.json)
  else if keyword = "$ref" then .reference member.json
  else ofCombinator member

/-- The first keyword that creation looks for and finds decides, where there is no default. Allowed
values have to be a list, or creation looks past them. -/
theorem shape_of_first {keyword : String} {member : Node} (known : keyword ∈ Check.precedence)
    (undefaulted : node.member? "default" = none) (present : node.member? keyword = some member)
    (listed : keyword = "enum" → member.json.isArray)
    (first : ∀ other ∈ preceding precedence keyword, node.member? other = none) :
    shape node = governedShape keyword member := by
  simp only [Check.precedence, Check.combinators, List.cons_append, List.nil_append,
    List.mem_cons, List.not_mem_nil, or_false] at known
  unfold shape
  rw [undefaulted, Node.value_eq]
  rcases known with rfl | rfl | rfl | rfl | rfl
  · rw [present, Option.map_some, Option.getD_some]
    cases hjson : member.json with
    | arr allowed =>
      cases node.member? "$ref" <;> (rw [governedShape, if_pos rfl, hjson]; rfl)
    | _ =>
      rw [hjson] at listed
      cases listed rfl
  · rw [first "enum" (by decide), first "$ref" (by decide)]
    simp [combinators, present, first "allOf" (by decide), first "anyOf" (by decide),
      governedShape]
  · rw [first "enum" (by decide), first "$ref" (by decide)]
    simp [combinators, present, governedShape]
  · rw [first "enum" (by decide), first "$ref" (by decide)]
    simp [combinators, present, first "allOf" (by decide), governedShape]
  · rw [first "enum" (by decide), present]
    rfl

section

variable {budget : Nat}

theorem create_of_value (h : shape node = .value json) :
    create table root (budget + 1) active node = .ok json := by
  simp only [create, h]

theorem create_of_schema (h : shape node = .schema child) :
    create table root (budget + 1) active node = create table root budget active child := by
  simp only [create, h]

theorem create_of_properties (h : shape node = .properties members) :
    create table root (budget + 1) active node =
      (members.mapM fun member =>
        (create table root budget active member.2).map (member.1, ·)).map .obj := by
  simp only [create, h]
  rfl

theorem create_of_unread {bad : BadIndex} (h : shape node = .reference ref)
    (unread : resolve? ref table root = .error bad) :
    create table root (budget + 1) active node = .error (.index bad) := by
  simp only [create, h, unread]
  rfl

theorem create_of_unresolved (h : shape node = .reference ref)
    (unresolved : resolve? ref table root = .ok none) :
    create table root (budget + 1) active node = .ok (.obj []) := by
  simp only [create, h, unresolved]
  rfl

theorem create_of_resolved {target : Node} (h : shape node = .reference ref)
    (resolved : resolve? ref table root = .ok (some target)) :
    create table root (budget + 1) active node =
      if active.any (·.text == ref.text) then .ok (.obj [])
      else create table root budget (ref :: active) target := by
  simp only [create, h, resolved]
  rfl

end

/-- Creation goes on from a node, while some references are being followed, to another node, while
others are. A reference leads on here also where creation cuts it off. -/
inductive ComesTo (table : Definitions) (root : Node) :
    List String → Node → List String → Node → Prop
  | here (following : List String) (node : Node) : ComesTo table root following node following node
  | schema {following following' : List String} {node child node' : Node} :
      shape node = .schema child → ComesTo table root following child following' node' →
      ComesTo table root following node following' node'
  | property {following following' : List String} {node node' : Node}
      {members : List (String × Node)} {member : String × Node} :
      shape node = .properties members → member ∈ members →
      ComesTo table root following member.2 following' node' →
      ComesTo table root following node following' node'
  | reference {following following' : List String} {node target node' : Node} {name : String} :
      shape node = .reference (.str name) →
      resolve? (.str name) table root = .ok (some target) →
      ComesTo table root (name :: following) target following' node' →
      ComesTo table root following node following' node'

/-- What holds wherever creation comes to from a node. -/
def Along (table : Definitions) (root : Node) (holds : List String → Node → Prop)
    (following : List String) (node : Node) : Prop :=
  ∀ following' node', ComesTo table root following node following' node' → holds following' node'

section

variable {holds : List String → Node → Prop} {following : List String} {name : String}
  {target : Node}

theorem Along.here (h : Along table root holds following node) : holds following node :=
  h following node (.here following node)

theorem along_of_value (h : shape node = .value json) (here : holds following node) :
    Along table root holds following node := by
  rintro following' node' (_ | ⟨hshape, _⟩ | ⟨hshape, _, _⟩ | ⟨hshape, _, _⟩)
  · exact here
  all_goals cases h.symm.trans hshape

theorem along_schema_iff (h : shape node = .schema child) :
    Along table root holds following node ↔
      holds following node ∧ Along table root holds following child := by
  constructor
  · exact fun along => ⟨along.here, fun _ _ comes => along _ _ (.schema h comes)⟩
  · rintro ⟨here, onward⟩ following' node' (_ | ⟨hshape, comes⟩ | ⟨hshape, _, _⟩ | ⟨hshape, _, _⟩)
    · exact here
    all_goals cases h.symm.trans hshape
    exact onward _ _ comes

theorem along_properties_iff (h : shape node = .properties members) :
    Along table root holds following node ↔
      holds following node ∧ ∀ member ∈ members, Along table root holds following member.2 := by
  constructor
  · exact fun along =>
      ⟨along.here, fun _ hmember _ _ comes => along _ _ (.property h hmember comes)⟩
  · rintro ⟨here, onward⟩ following' node'
      (_ | ⟨hshape, _⟩ | ⟨hshape, hmember, comes⟩ | ⟨hshape, _, _⟩)
    · exact here
    all_goals cases h.symm.trans hshape
    exact onward _ hmember _ _ comes

theorem along_reference_iff (h : shape node = .reference (.str name))
    (resolved : resolve? (.str name) table root = .ok (some target)) :
    Along table root holds following node ↔
      holds following node ∧ Along table root holds (name :: following) target := by
  constructor
  · exact fun along => ⟨along.here, fun _ _ comes => along _ _ (.reference h resolved comes)⟩
  · rintro ⟨here, onward⟩ following' node'
      (_ | ⟨hshape, _⟩ | ⟨hshape, _, _⟩ | ⟨hshape, hresolve, comes⟩)
    · exact here
    all_goals cases h.symm.trans hshape
    cases resolved.symm.trans hresolve
    exact onward _ _ comes

end

/-- Steps beyond those that are needed make no difference. -/
theorem create_mono {budget budget' : Nat} (le : budget ≤ budget')
    (ends : create table root budget active node ≠ .error .exhausted) :
    create table root budget' active node = create table root budget active node := by
  induction budget generalizing budget' active node with
  | zero => exact absurd rfl ends
  | succ budget ih =>
    obtain ⟨larger, rfl⟩ : ∃ larger, budget' = larger + 1 := ⟨budget' - 1, by omega⟩
    have hle : budget ≤ larger := by omega
    cases hshape : shape node with
    | value json => rw [create_of_value hshape, create_of_value hshape]
    | schema child =>
      rw [create_of_schema hshape] at ends ⊢
      rw [create_of_schema hshape, ih hle ends]
    | properties members =>
      rw [create_of_properties hshape] at ends ⊢
      rw [create_of_properties hshape]
      congr 1
      refine mapM_agrees (e := .exhausted) (fun member _ hends => ?_) fun h => ends (by rw [h]; rfl)
      rw [ih hle fun h => hends (by rw [h]; rfl)]
    | reference ref =>
      rcases hresolve : resolve? ref table root with bad | _ | target
      · rw [create_of_unread hshape hresolve, create_of_unread hshape hresolve]
      · rw [create_of_unresolved hshape hresolve, create_of_unresolved hshape hresolve]
      · rw [create_of_resolved hshape hresolve] at ends ⊢
        rw [create_of_resolved hshape hresolve]
        split at ends
        · rename_i hfollowed
          rw [if_pos hfollowed, if_pos hfollowed]
        · rename_i hfresh
          rw [if_neg hfresh, if_neg hfresh, ih hle ends]

/-- How many nodes could still be followed as references. -/
def room (tops : List Node) (active : List Json) : Nat :=
  (Node.space tops).countP fun node => !active.any (·.text == node.json.text)

theorem room_le (tops : List Node) (active : List Json) : room tops active ≤ Node.extent tops :=
  Nat.le_trans List.countP_le_length (Node.length_space tops)

theorem room_follow {tops : List Node} {holder : Node} (among : Node.Among tops holder)
    (fresh : active.any (·.text == holder.json.text) = false) :
    room tops (holder.json :: active) < room tops active := by
  apply countP_lt _ among.mem_space
  · rw [fresh]
    rfl
  · simp
  · intro other _ hother
    rw [List.any_cons, Bool.not_eq_true', Bool.or_eq_false_iff] at hother
    rw [hother.2]
    rfl

/-- Counted by the references that are left, and then by the size of the schema, the steps come
to an end. -/
theorem create_ends {tops : List Node} (hroot : Node.Among tops root)
    (htable : ∀ name node, (name, node) ∈ table → Node.Among tops node) {budget : Nat}
    (hnode : Node.Among tops node)
    (enough : room tops active * (Node.extent tops + 1) + node.json.size < budget) :
    create table root budget active node ≠ .error .exhausted := by
  induction budget generalizing active node with
  | zero => cases enough
  | succ budget ih =>
    have hwithin := shape_within node
    have hbelow {child : Node} (beneath : node.Beneath child) :
        create table root budget active child ≠ .error .exhausted := by
      have hsize := beneath.size_lt
      exact ih (hnode.inside beneath.inside) (by omega)
    cases hshape : shape node with
    | value json =>
      rw [create_of_value hshape]
      nofun
    | schema child =>
      rw [hshape] at hwithin
      rw [create_of_schema hshape]
      exact hbelow hwithin
    | properties members =>
      rw [hshape] at hwithin
      have hmembers : (members.mapM fun member =>
          (create table root budget active member.2).map (member.1, ·)) ≠ .error .exhausted := by
        refine mapM_ne_error fun member hmember h => ?_
        have hends := hbelow (hwithin member hmember)
        cases hcreated : create table root budget active member.2 <;>
          rw [hcreated] at h hends <;> cases h
        exact hends rfl
      rw [create_of_properties hshape]
      intro h
      cases hcreated : members.mapM fun member =>
          (create table root budget active member.2).map (member.1, ·) <;>
        rw [hcreated] at h hmembers <;> cases h
      exact hmembers rfl
    | reference ref =>
      rw [hshape] at hwithin
      obtain ⟨holder, hholder, rfl⟩ := hwithin
      rcases hresolve : resolve? holder.json table root with bad | _ | target
      · rw [create_of_unread hshape hresolve]
        nofun
      · rw [create_of_unresolved hshape hresolve]
        nofun
      · rw [create_of_resolved hshape hresolve]
        cases hfresh : active.any (·.text == holder.json.text) with
        | true =>
          rw [if_pos rfl]
          nofun
        | false =>
          rw [if_neg (by nofun)]
          have hroom := room_follow (hnode.inside hholder.inside) hfresh
          have htarget : Node.Among tops target ∨ ∃ s, target.json = .str s := by
            rcases resolve?_found hresolve with ⟨name, hmem⟩ | ⟨top, htop, hinside⟩ | htext
            · exact .inl (htable name target hmem)
            · cases htop
              exact .inl (hroot.inside hinside)
            · exact .inr htext
          rcases htarget with hamong | ⟨s, hs⟩
          · apply ih hamong
            have hdigits := digits_lt hroom hamong.size_le node.json.size
            omega
          · have hsize := hholder.size_lt
            obtain ⟨less, rfl⟩ : ∃ less, budget = less + 1 := ⟨budget - 1, by omega⟩
            have hobject : target.json.isObject = false := by
              rw [hs]
              rfl
            rw [create_of_value (shape_of_not_object hobject)]
            nofun

/-- The definitions that a value is made up with: those given, and those at the root. -/
def tableOf (schema : Json) (definitions : Definitions) : Definitions :=
  definitions.extend (Check.declared (.document .schema schema))

/-- Where all schemas stand that creation can come to. -/
def sources (schema : Json) (definitions : Definitions) : List Node :=
  .document .schema schema :: definitions.map (·.2)

theorem root_among (schema : Json) (definitions : Definitions) :
    Node.Among (sources schema definitions) (.document .schema schema) :=
  ⟨_, List.mem_cons_self, .self _⟩

theorem tableOf_among {schema : Json} {definitions : Definitions} (name : String) (node : Node)
    (hmem : (name, node) ∈ tableOf schema definitions) :
    Node.Among (sources schema definitions) node := by
  rcases List.mem_append.mp hmem with hgiven | hown
  · exact ⟨node, List.mem_cons_of_mem _ (List.mem_map_of_mem hgiven), .self node⟩
  · exact (root_among schema definitions).inside
      (Check.beneath_of_mem_table (List.mem_of_mem_filter hown)).inside

theorem createValue_ends (schema : Json) (definitions : Definitions) :
    createValue schema definitions ≠ .error .exhausted := by
  have hroot := root_among schema definitions
  have hextent : Node.extent (sources schema definitions) = schema.size + definitions.size :=
    congrArg (schema.size + ·) (Node.extent_definitions definitions)
  apply create_ends hroot tableOf_among hroot
  have hroom := room_le (sources schema definitions) []
  have hsize := hroot.size_le
  rw [hextent] at hroom hsize ⊢
  rw [Nat.succ_mul]
  have hdigits := Nat.mul_le_mul_right (schema.size + definitions.size + 1) hroom
  have hjson : (Node.document .schema schema).json = schema := rfl
  rw [hjson] at hsize ⊢
  omega

/-- A number of steps that is enough gives the value. -/
theorem createValue_eq_create {schema : Json} {definitions : Definitions} {steps : Nat}
    (ends : create (tableOf schema definitions) (.document .schema schema) steps []
      (.document .schema schema) ≠ .error .exhausted) :
    createValue schema definitions =
      create (tableOf schema definitions) (.document .schema schema) steps []
        (.document .schema schema) := by
  have hends := createValue_ends schema definitions
  unfold createValue at hends ⊢
  rw [← create_mono (Nat.le_max_left _ steps) hends, ← create_mono (Nat.le_max_right _ _) ends]
  rfl

/-- Definitions that the options take are taken alike by creation. -/
theorem createValueWith_of_table? {schema : Json} {definitions : Node} {table : Definitions}
    (readable : Options.table? definitions = .ok table) :
    createValueWith schema definitions = createValue schema table := by
  unfold Options.table? at readable
  cases hjson : definitions.json with
  | null =>
    rw [hjson] at readable
    cases readable
    unfold createValueWith
    rw [hjson]
    rfl
  | obj members =>
    rw [hjson] at readable
    cases readable
    have htable : Definitions.ofNode definitions = .ok definitions.members := by
      rw [Definitions.ofNode, hjson]
    unfold createValueWith
    rw [htable, hjson]
    cases members with
    | nil =>
      rw [Node.members, hjson]
      rfl
    | cons member rest => rfl
  | _ =>
    rw [hjson] at readable
    cases readable

end Placeholder

end JsonSchema
