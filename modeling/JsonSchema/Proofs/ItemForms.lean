import JsonSchema.Proofs.Restatement
import JsonSchema.Proofs.Union

/-! One schema for all items of an array. It can be said once, or for each place of a tuple and for
the items past it, or for additional items alone, and the items are checked in the same way. -/
namespace JsonSchema

/-- The ways to hold all items of an array to one schema. -/
inductive ItemForm where
  | uniform
  | tuple (count : Nat)
  | additional

namespace ItemForm

def members (form : ItemForm) (schema : Json) : Members :=
  match form with
  | .uniform => [("items", schema)]
  | .tuple count => [("items", .arr (List.replicate count schema)), ("additionalItems", schema)]
  | .additional => [("additionalItems", schema)]

/-- The schema of arrays with items of some schema and other constraints. -/
def schema (form : ItemForm) (items : Members) (others : Members) : Json :=
  .obj (("type", .str "array") :: (form.members (.obj items) ++ others))

/-- The keywords that decide whether the other members of a schema are constraints on arrays. -/
def reserved : List String :=
  "type" :: "items" :: "additionalItems" :: "definitions" :: "$ref" :: Check.combinators

/-- Where the schema of the item at a place stands in a document of a form. -/
def element (form : ItemForm) (document : Node) (items : Members) (i : Nat) : Node :=
  match form with
  | .uniform => document.below (.key "items") (.obj items)
  | .tuple count =>
    if i < count then
      (document.below (.key "items") (.arr (List.replicate count (.obj items)))).below (.index i)
        (.obj items)
    else document.below (.key "additionalItems") (.obj items)
  | .additional => document.below (.key "additionalItems") (.obj items)

end ItemForm

/-- An item past a tuple is held to a schema if that is what is said of additional items. -/
theorem Check.additionalItem_of_obj {additional : Node} {members : Members}
    (hjson : additional.json = .obj members) (schema : Node) (i : Nat) (item : Json) (path : Path) :
    additionalItem schema additional i item path = .enter additional item path := by
  rw [additionalItem, hjson]

namespace ItemForm

section

variable {form : ItemForm} {items others : Members} {document : Node}
  (holds : document.json = form.schema items others)
include holds

theorem member?_eq (keyword : String) : document.member? keyword =
    ((("type", .str "array") :: (form.members (.obj items) ++ others)).lookup keyword).map
      (document.below (.key keyword)) := by
  rw [Node.member?_eq_map, holds]
  rfl

/-- A keyword that says nothing about the schemas of items is held by the other members. -/
theorem member?_other {keyword : String}
    (other : keyword ∉ ["type", "items", "additionalItems"]) :
    document.member? keyword = (others.lookup keyword).map (document.below (.key keyword)) := by
  simp only [List.mem_cons, List.not_mem_nil, or_false, not_or, ← beq_eq_false_iff_ne] at other
  obtain ⟨htype, hitems, hadditional⟩ := other
  rw [member?_eq holds]
  cases form <;> simp [members, List.lookup_cons, htype, hitems, hadditional]

theorem value_other {keyword : String} (other : keyword ∉ ["type", "items", "additionalItems"]) :
    document.value keyword = (others.lookup keyword).getD .null := by
  rw [Node.value_eq, member?_other holds other, Option.map_map]
  cases others.lookup keyword <;> rfl

theorem solely (plain : ∀ keyword ∈ reserved, others.lookup keyword = none) :
    Check.Solely document .array := by
  constructor
  case plain =>
    simp only [reserved, Check.combinators, List.forall_mem_cons] at plain ⊢
    simp [member?_other holds, plain]
  case type =>
    refine ⟨document.below (.key "type") (.str "array"), ?_, rfl⟩
    rw [Check.governingType?, member?_eq holds]
    rfl

/-- Item by item the schema of its place is entered, whatever the options say of other items. -/
theorem items_eq (plain : ∀ keyword ∈ reserved, others.lookup keyword = none) (options : Options)
    (elements : List Json) (path : Path) :
    Check.items options document elements path = .all ((Check.indexed elements).map fun (i, item) =>
      .enter (form.element document items i) item (path.index i)) := by
  have hmember := member?_eq holds
  cases form with
  | uniform =>
    have hitems : document.member? "items" = some (document.below (.key "items") (.obj items)) :=
      hmember "items"
    rw [Check.items, hitems]
    rfl
  | tuple count =>
    let tuple := document.below (.key "items") (.arr (List.replicate count (.obj items)))
    have hitems : document.member? "items" = some tuple := hmember "items"
    have hadditional : document.member? "additionalItems" =
      some (document.below (.key "additionalItems") (.obj items)) := hmember "additionalItems"
    have htuple (i : Nat) : tuple.items[i]? =
        if i < count then some (tuple.below (.index i) (.obj items)) else none := by
      rw [Node.items_eq, Node.getElem?_itemsFrom, Nat.zero_add]
      change (List.replicate count _)[i]?.map _ = _
      rw [List.getElem?_replicate]
      split <;> rfl
    rw [Check.items, hitems, Check.additionalItems, hadditional]
    change Check.tupleItems document _ tuple.items elements path = _
    rw [Check.tupleItems]
    congr 2
    funext ⟨i, item⟩
    simp only [Check.tupleItem, htuple, element]
    by_cases hlt : i < count
    · rw [if_pos hlt, if_pos hlt]
    · rw [if_neg hlt, if_neg hlt]
      exact Check.additionalItem_of_obj rfl document i item (path.index i)
  | additional =>
    have hitems : document.member? "items" = none := by
      have hnone := hmember "items"
      change _ = (others.lookup "items").map _ at hnone
      rw [hnone, plain "items" (by decide)]
      rfl
    have hadditional : document.member? "additionalItems" =
      some (document.below (.key "additionalItems") (.obj items)) := hmember "additionalItems"
    rw [Check.items, hitems, Check.additionalItems, hadditional]
    change Check.tupleItems document _ [] elements path = _
    rw [Check.tupleItems]
    congr 2

end

/-- The schemas of items stand in the document that they are said in. -/
theorem address_element (form : ItemForm) (document : Node) {here : Address}
    (haddress : document.address = some here) (items : Members) (i : Nat) :
    ∃ steps, (form.element document items i).address = some ⟨here.origin, steps⟩ := by
  have hbelow (step : Step) (json : Json) := Node.address_below haddress step json
  cases form with
  | uniform => exact ⟨_, hbelow _ _⟩
  | tuple count =>
    rw [element]
    split
    · exact ⟨_, Node.address_below (hbelow _ _) _ _⟩
    · exact ⟨_, hbelow _ _⟩
  | additional => exact ⟨_, hbelow _ _⟩

theorem json_element (form : ItemForm) (document : Node) (items : Members) (i : Nat) :
    (form.element document items i).json = .obj items := by
  cases form with
  | tuple count =>
    rw [element]
    split <;> rfl
  | _ => rfl

end ItemForm

/-- Runs in which nodes are entered that can stand for each other in a scope. -/
def Pairing.substituted (scope : Scope) : Pairing where
  view := .exceptSchemas
  nodes _ := Check.HasCopy scope
  values value value' := value' = value
  links _ _ := False

namespace Check

/-- Nodes that can stand for each other are checked in step. -/
theorem keeps_substituted (scope : Scope) {budget budget' : Nat} (le : budget ≤ budget') :
    (Pairing.substituted scope).Keeps (fun inner inner' => inner' = inner ∧
        inner.known = scope.known ∧ View.exceptSchemas.Bounds inner.options.hook)
      .chain .chain (descend .chain budget) (descend .chain budget') := by
  constructor
  case hook => exact fun ⟨same, _, _⟩ => by rw [same]
  case bounds => exact fun ⟨_, _, bounds⟩ => bounds
  case trials => exact fun ⟨same, _, _⟩ => by rw [same]
  case trial => exact fun ⟨same, known, bounds⟩ => ⟨by rw [same], known, bounds⟩
  case enter =>
    rintro inner _ node copy value _ path ⟨rfl, known, bounds⟩ ⟨copies, copying, hknown, hcopy⟩ rfl
    exact (lockstep_copied copying).descend le (Scope.copied_self (known ▸ hknown) bounds) hcopy
      trivial rfl
  case follow => exact fun _ hlinks => hlinks.elim

section

variable {form form' : ItemForm} {items others : Members} {document document' : Node}
  (plain : ∀ keyword ∈ ItemForm.reserved, others.lookup keyword = none)
  (holds : document.json = form.schema items others)
  (holds' : document'.json = form'.schema items others)
include plain holds holds'

/-- Documents of two forms ask for the same: the constraints on the array, and then for each item
what its place holds it to. -/
theorem ofType_substituted {scope : Scope} {value : Json} {path : Path}
    (copies : ∀ i, HasCopy scope (form.element document items i)
      (form'.element document' items i)) :
    Plan.Parallels (.substituted scope) (ofType scope.options document value path .array)
      (ofType scope.options document' value path .array) := by
  have hvalue (keyword : String) (other : keyword ∉ ["type", "items", "additionalItems"]) :
      document'.value keyword = document.value keyword := by
    rw [ItemForm.value_other holds other, ItemForm.value_other holds' other]
  cases value with
  | arr elements =>
    have hverdicts : limitVerdicts document' .minItems .maxItems elements.length
          ++ [.ok (uniqueItems document' elements)] =
        limitVerdicts document .minItems .maxItems elements.length
          ++ [.ok (uniqueItems document elements)] := by
      rw [limitVerdicts, limitVerdicts, uniqueItems, uniqueItems, hvalue _ (by decide),
        hvalue _ (by decide), hvalue _ (by decide)]
    change Plan.Parallels _ (array _ _ _ _ _) (array _ _ _ _ _)
    rw [array, array, hverdicts, ItemForm.items_eq holds plain, ItemForm.items_eq holds' plain]
    refine .both (Plan.settle_parallels (fun _ => rfl) _) (Plan.all_parallels ?_)
    rw [List.forall₂_map_left_iff, List.forall₂_map_right_iff, List.forall₂_same]
    intro entry _
    exact .enter _ (copies entry.1) rfl
  | _ => exact .report rfl

/-- The checks against two forms are in step. -/
theorem descend_substituted {scope : Scope} (bounds : View.exceptSchemas.Bounds scope.options.hook)
    {value : Json} {path : Path} (copies : ∀ i, HasCopy scope (form.element document items i)
      (form'.element document' items i)) {budget budget' : Nat} (le : budget ≤ budget') :
    Parallels .exceptSchemas (descend .chain budget scope document value path)
      (descend .chain budget' scope document' value path) := by
  cases budget with
  | zero => exact fun _ _ _ ends => absurd rfl (ends _ rfl)
  | succ budget =>
    obtain ⟨larger, rfl⟩ : ∃ larger, budget' = larger + 1 := ⟨budget' - 1, by omega⟩
    have hdeclares : document.member? "definitions" = none := by
      rw [ItemForm.member?_other holds (by decide), plain "definitions" (by decide)]
      rfl
    have hdeclares' : document'.member? "definitions" = none := by
      rw [ItemForm.member?_other holds' (by decide), plain "definitions" (by decide)]
      rfl
    rw [descend_of_plain hdeclares, descend_of_plain hdeclares',
      (ItemForm.solely holds plain).node_eq, (ItemForm.solely holds' plain).node_eq]
    rcases within_or_refused scope path with hwithin | ⟨f, _, hrefused⟩
    · rw [within, within, hwithin]
      exact Plan.run_parallels (keeps_substituted scope (by omega))
        (ofType_substituted plain holds holds' copies) ⟨rfl, rfl, bounds⟩
    · rw [hrefused, hrefused]
      exact throw_parallels _ f

end

end Check

namespace Session

end Session

end JsonSchema
