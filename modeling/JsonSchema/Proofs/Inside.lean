import Mathlib.Algebra.Order.BigOperators.Group.List
import Mathlib.Algebra.Order.Ring.Nat
import JsonSchema.Json.Proper
import JsonSchema.Schema.Reference

/-! The nodes inside a node, itself included. There are no more of them than the size of its
value, and none of them is larger. -/
namespace JsonSchema

namespace Node

def children (node : Node) : List Node :=
  node.members.map (·.2) ++ node.items

inductive Inside : Node → Node → Prop
  | self (node : Node) : Inside node node
  | deeper {node child inner : Node} : child ∈ node.children → Inside child inner →
      Inside node inner

/-- Inside a node, and not the node itself. -/
def Beneath (node inner : Node) : Prop :=
  ∃ child ∈ node.children, Inside child inner

theorem Inside.trans {node middle inner : Node} (h : Inside node middle)
    (h' : Inside middle inner) : Inside node inner := by
  induction h with
  | self => exact h'
  | deeper hchild _ ih => exact .deeper hchild (ih h')

theorem Beneath.inside {node inner : Node} (h : Beneath node inner) : Inside node inner := by
  obtain ⟨child, hchild, hinner⟩ := h
  exact .deeper hchild hinner

theorem Beneath.trans {node middle inner : Node} (h : Beneath node middle)
    (h' : Inside middle inner) : Beneath node inner := by
  obtain ⟨child, hchild, hmiddle⟩ := h
  exact ⟨child, hchild, hmiddle.trans h'⟩

theorem Inside.beneath {node middle inner : Node} (h : Inside node middle)
    (h' : Beneath middle inner) : Beneath node inner := by
  induction h with
  | self => exact h'
  | deeper hchild _ ih => exact ⟨_, hchild, (ih h').inside⟩

theorem beneath_of_mem_children {node child : Node} (h : child ∈ node.children) :
    Beneath node child :=
  ⟨child, h, .self child⟩

theorem beneath_of_mem_members {node child : Node} {name : String}
    (h : (name, child) ∈ node.members) : Beneath node child :=
  beneath_of_mem_children (List.mem_append_left _ (List.mem_map_of_mem h))

theorem beneath_of_mem_items {node child : Node} (h : child ∈ node.items) : Beneath node child :=
  beneath_of_mem_children (List.mem_append_right _ h)

theorem mem_of_lookup {α : Type} {table : List (String × α)} {name : String} {a : α}
    (h : table.lookup name = some a) : (name, a) ∈ table := by
  obtain ⟨before, after, rfl, _⟩ := List.lookup_eq_some_iff.mp h
  exact List.mem_append_right before List.mem_cons_self

theorem value_eq (node : Node) (name : String) :
    node.value name = ((node.member? name).map json).getD .null := by
  unfold value member?
  cases node.json with
  | obj members => cases hlookup : members.lookup name <;> simp [hlookup, below]
  | _ => rfl

theorem beneath_of_member? {node child : Node} {name : String}
    (h : node.member? name = some child) : Beneath node child := by
  unfold member? at h
  cases hjson : node.json with
  | obj members =>
    rw [hjson] at h
    obtain ⟨json, hlookup, rfl⟩ := Option.map_eq_some_iff.mp h
    apply beneath_of_mem_members
    unfold Node.members
    rw [hjson]
    exact List.mem_map.mpr ⟨(name, json), mem_of_lookup hlookup, rfl⟩
  | _ =>
    rw [hjson] at h
    cases h

theorem size_itemsFrom (node : Node) (i : Nat) (items : List Json) :
    ((node.itemsFrom i items).map (·.json.size)).sum = Json.sizeItems items := by
  induction items generalizing i with
  | nil => rfl
  | cons item rest ih =>
    rw [itemsFrom, List.map_cons, List.sum_cons, ih]
    rfl

theorem size_members (node : Node) (members : Members) :
    ((members.map fun (name, json) => (name, node.below (.key name) json)).map
      (·.2.json.size)).sum = Json.sizeMembers members := by
  induction members with
  | nil => rfl
  | cons head rest ih =>
    rw [List.map_cons, List.map_cons, List.sum_cons, ih]
    rfl

/-- A node is as large as its children and one more. -/
theorem size_children (node : Node) :
    (node.children.map (·.json.size)).sum + 1 = node.json.size := by
  unfold children Node.members items
  cases node.json with
  | arr items =>
    rw [List.map_nil, List.nil_append, size_itemsFrom]
    rfl
  | obj members =>
    rw [List.append_nil, List.map_map]
    exact congrArg (· + 1) (size_members node members)
  | _ => rfl

theorem size_lt_of_mem_children {node child : Node} (h : child ∈ node.children) :
    child.json.size < node.json.size := by
  have hle : child.json.size ≤ (node.children.map (·.json.size)).sum :=
    List.le_sum_of_mem (List.mem_map_of_mem h)
  rw [← size_children node]
  omega

theorem Inside.size_le {node inner : Node} (h : Inside node inner) :
    inner.json.size ≤ node.json.size := by
  induction h with
  | self => exact Nat.le_refl _
  | deeper hchild _ ih =>
    have hlt := size_lt_of_mem_children hchild
    omega

theorem Beneath.size_lt {node inner : Node} (h : Beneath node inner) :
    inner.json.size < node.json.size := by
  obtain ⟨child, hchild, hinner⟩ := h
  have hlt := size_lt_of_mem_children hchild
  have hle := hinner.size_le
  omega

/-- The nodes inside a node, down to a given depth. -/
def within : Nat → Node → List Node
  | 0, _ => []
  | depth + 1, node => node :: node.children.flatMap (within depth)

theorem length_within (depth : Nat) (node : Node) :
    (within depth node).length ≤ node.json.size := by
  induction depth generalizing node with
  | zero => exact Nat.zero_le _
  | succ depth ih =>
    have hsum : (node.children.map fun child => (within depth child).length).sum ≤
        (node.children.map (·.json.size)).sum :=
      List.sum_le_sum fun child _ => ih child
    rw [within, List.length_cons, List.length_flatMap, ← size_children node]
    omega

theorem Inside.mem_within {node inner : Node} (h : Inside node inner) {depth : Nat}
    (deep : node.json.size ≤ depth) : inner ∈ within depth node := by
  induction h generalizing depth with
  | self node =>
    have hpos := size_children node
    obtain ⟨less, rfl⟩ : ∃ less, depth = less + 1 := ⟨depth - 1, by omega⟩
    exact List.mem_cons_self
  | deeper hchild _ ih =>
    have hlt := size_lt_of_mem_children hchild
    obtain ⟨less, rfl⟩ : ∃ less, depth = less + 1 := ⟨depth - 1, by omega⟩
    exact List.mem_cons_of_mem _ (List.mem_flatMap.mpr ⟨_, hchild, ih (by omega)⟩)

theorem getElem?_itemsFrom (node : Node) (start : Nat) (items : List Json) (i : Nat) :
    (node.itemsFrom start items)[i]? = items[i]?.map (node.below (.index ((start + i : Nat) : Int))) := by
  induction items generalizing start i with
  | nil => rfl
  | cons item rest ih =>
    cases i with
    | zero => rfl
    | succ i =>
      rw [itemsFrom, List.getElem?_cons_succ, List.getElem?_cons_succ, ih, Nat.add_right_comm,
        Nat.add_assoc]

theorem below_mem_itemsFrom (node : Node) {items : List Json} {i : Nat} {item : Json}
    (h : items[i]? = some item) (start : Nat) :
    node.below (.index ((start + i : Nat) : Int)) item ∈ node.itemsFrom start items := by
  refine List.mem_of_getElem? (i := i) ?_
  rw [getElem?_itemsFrom, h]
  rfl

theorem beneath_of_index {node : Node} {items : List Json} (hjson : node.json = .arr items)
    {i : Nat} {item : Json} (h : items[i]? = some item) :
    Beneath node (node.below (.index i) item) := by
  apply beneath_of_mem_items
  have hmem := below_mem_itemsFrom node h 0
  rw [Nat.zero_add] at hmem
  unfold Node.items
  rw [hjson]
  exact hmem

/-- The children of a node hold the parts of its value. -/
theorem part_of_mem_children {node child : Node} (h : child ∈ node.children) :
    ∃ step, node.json.Part step child.json := by
  unfold children members items at h
  cases hjson : node.json with
  | arr items =>
    rw [hjson, List.map_nil, List.nil_append] at h
    obtain ⟨i, hi⟩ := List.mem_iff_getElem?.mp h
    rw [getElem?_itemsFrom] at hi
    obtain ⟨item, hitem, rfl⟩ := Option.map_eq_some_iff.mp hi
    exact ⟨_, .item hitem⟩
  | obj members =>
    rw [hjson] at h
    simp only [List.map_map, List.append_nil] at h
    obtain ⟨member, hmember, rfl⟩ := List.mem_map.mp h
    exact ⟨_, .member hmember⟩
  | _ =>
    rw [hjson] at h
    cases h

/-- A step of a pointer leads to a child, or to a text that was made on the way. -/
theorem step_found {node child : Node} {token : String}
    (h : Pointer.step node token = .found child) : Beneath node child ∨ ∃ s, child.json = .str s := by
  unfold Pointer.step at h
  cases hjson : node.json with
  | obj members =>
    rw [hjson] at h
    cases hmember : node.member? token with
    | none =>
      simp only [hmember] at h
      cases h
    | some member =>
      simp only [hmember] at h
      cases h
      exact .inl (beneath_of_member? hmember)
  | arr items =>
    rw [hjson] at h
    dsimp only at h
    split at h
    · cases h
    · rename_i i _
      cases hitem : items[i]? with
      | none =>
        simp only [hitem] at h
        cases h
      | some item =>
        simp only [hitem] at h
        cases h
        exact .inl (beneath_of_index hjson hitem)
    · cases h
    · cases h
  | str s =>
    rw [hjson] at h
    dsimp only at h
    split at h
    · cases h
    · rename_i i _
      cases hchar : s.toList[i]? with
      | none =>
        simp only [hchar] at h
        cases h
      | some c =>
        simp only [hchar] at h
        cases h
        exact .inr ⟨_, rfl⟩
    · cases h
    · cases h
  | _ =>
    rw [hjson] at h
    cases h

theorem step_last {node child : Node} {token : String}
    (h : Pointer.step node token = .last child) : ∃ s, child.json = .str s := by
  unfold Pointer.step at h
  split at h
  · split at h <;> cases h
  · split at h
    · cases h
      exact ⟨_, rfl⟩
    · split at h <;> cases h
    · cases h
    · cases h
  · split at h
    · cases h
      exact ⟨_, rfl⟩
    · split at h <;> cases h
    · cases h
    · cases h
  · cases h

theorem Inside.eq_of_str {node inner : Node} (h : Inside node inner) {s : String}
    (hjson : node.json = .str s) : inner = node := by
  cases h with
  | self => rfl
  | deeper hchild _ =>
    have hlt := size_lt_of_mem_children hchild
    have hsize : (Json.str s).size = 1 := rfl
    have hpos := size_children ‹Node›
    rw [hjson, hsize] at hlt
    omega

/-- A pointer leads to a node inside, or to a text. -/
theorem walk?_inside {node found : Node} {tokens : List String}
    (h : node.walk? tokens = .ok (some found)) :
    Inside node found ∨ ∃ s, found.json = .str s := by
  induction tokens generalizing node with
  | nil =>
    cases h
    exact .inl (.self _)
  | cons token rest ih =>
    rw [walk?] at h
    cases hstep : Pointer.step node token with
    | found child =>
      rw [hstep] at h
      rcases ih h with hinside | htext
      · rcases step_found hstep with hbeneath | ⟨s, htext⟩
        · exact .inl (hbeneath.trans hinside).inside
        · rw [hinside.eq_of_str htext]
          exact .inr ⟨s, htext⟩
      · exact .inr htext
    | last child =>
      rw [hstep] at h
      dsimp only at h
      split at h
      · cases h
        exact .inr (step_last hstep)
      · cases h
    | missing =>
      rw [hstep] at h
      cases h
    | unread flaw =>
      rw [hstep] at h
      cases h

end Node

/-- A reference leads to a definition, to a node inside the root, or to a text. -/
theorem resolve?_found {ref : Json} {table : Definitions} {root : Option Node} {target : Node}
    (h : resolve? ref table root = .ok (some target)) :
    (∃ name, (name, target) ∈ table) ∨ (∃ top, root = some top ∧ top.Inside target) ∨
      ∃ s, target.json = .str s := by
  have hfound : lookUp? ref table root = .ok (some target) := by
    unfold resolve? at h
    rcases hlook : lookUp? ref table root with bad | _ | found
    · rw [hlook] at h
      cases h
    · rw [hlook] at h
      cases h
    · rw [hlook, Except.map, Option.filter_some] at h
      cases hnull : found.isNull with
      | true =>
        rw [hnull] at h
        cases h
      | false =>
        rw [hnull] at h
        cases h
        rfl
  unfold lookUp? at hfound
  cases ref with
  | str name =>
    cases hname : table.lookup name with
    | some node =>
      simp only [hname] at hfound
      cases hfound
      exact .inl ⟨name, Node.mem_of_lookup hname⟩
    | none =>
      simp only [hname] at hfound
      split at hfound
      · rename_i hsome
        cases hsome
      · rename_i fragment _ _
        cases htokens : Pointer.tokens? (Text.percentDecode [] fragment) with
        | none =>
          simp only [htokens] at hfound
          cases hfound
        | some tokens =>
          cases hdefined : (Pointer.definitionName? tokens).bind fun name => table.lookup name with
          | some node =>
            simp only [htokens, hdefined] at hfound
            cases hfound
            obtain ⟨defined, _, hlookup⟩ := Option.bind_eq_some_iff.mp hdefined
            exact .inl ⟨defined, Node.mem_of_lookup hlookup⟩
          | none =>
            cases root with
            | none =>
              simp only [htokens, hdefined] at hfound
              cases hfound
            | some top =>
              simp only [htokens, hdefined] at hfound
              exact .inr ((Node.walk?_inside hfound).imp_left fun hinside => ⟨top, rfl, hinside⟩)
      · cases hfound
  | _ => cases hfound

end JsonSchema
