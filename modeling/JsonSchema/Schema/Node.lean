import JsonSchema.Json.Writer
import JsonSchema.Path

/-! Schema nodes. A node is a value together with the place it has in the document it
comes from, so that two nodes can be told apart even when their values are equal. -/
namespace JsonSchema

/-- Small values of which there is only one, wherever they stand: truth values, small
integers, texts of up to one character of the first 256, and what is no number. -/
def Json.isUnique : Json → Bool
  | .bool _ => true
  | .int n => -5 ≤ n && n ≤ 256
  | .float .nan | .float (.infinity _) => true
  | .str s =>
    match s.toList with
    | [] => true
    | [c] => c.toNat < 0x100
    | _ => false
  | _ => false

/-- The documents that schemas come from. -/
inductive Origin where
  | schema
  | options
  | supplied (number : Nat)
deriving DecidableEq

/-- A place in a document, the innermost step first. -/
structure Address where
  origin : Origin
  steps : List Step
deriving DecidableEq

/-- A value that was made on the way stands nowhere. -/
structure Node where
  json : Json
  address : Option Address

namespace Node

def document (origin : Origin) (json : Json) : Node :=
  ⟨json, some ⟨origin, []⟩⟩

def below (node : Node) (step : Step) (json : Json) : Node :=
  ⟨json, node.address.map fun a => ⟨a.origin, step :: a.steps⟩⟩

/-- Whether two nodes are one and the same: at the same place, or of one unique value. What
is made on the way is no object, and is made anew each time. -/
def isSame (a b : Node) : Bool :=
  (a.address == b.address && (a.address.isSome || a.json.isObject))
    || (a.json.isUnique && b.json.isUnique && a.json.text == b.json.text)

/-- The member of that name, with null for one that is missing. -/
def value (node : Node) (name : String) : Json :=
  match node.json with
  | .obj members => (members.lookup name).getD .null
  | _ => .null

def member? (node : Node) (name : String) : Option Node :=
  match node.json with
  | .obj members => (members.lookup name).map (node.below (.key name))
  | _ => none

def members (node : Node) : List (String × Node) :=
  match node.json with
  | .obj members => members.map fun (name, json) => (name, node.below (.key name) json)
  | _ => []

def itemsFrom (node : Node) : Nat → List Json → List Node
  | _, [] => []
  | i, json :: rest => node.below (.index i) json :: node.itemsFrom (i + 1) rest

def items (node : Node) : List Node :=
  match node.json with
  | .arr items => node.itemsFrom 0 items
  | _ => []

end Node

/-- Named schemas. -/
abbrev Definitions := List (String × Node)

namespace Definitions

/-- How many values there are in all the schemas of a table. -/
def size : Definitions → Nat
  | [] => 0
  | (_, node) :: rest => node.json.size + size rest

/-- Adds the names that are not bound yet. -/
def extend (table extra : Definitions) : Definitions :=
  table ++ extra.filter fun (name, _) => (table.lookup name).isNone

/-- A name that is bound already keeps its schema. -/
@[simp] theorem lookup_extend (table extra : Definitions) (name : String) :
    (table.extend extra).lookup name = (table.lookup name).or (extra.lookup name) := by
  rw [extend, List.lookup_append]
  cases h : table.lookup name with
  | some node => rfl
  | none =>
    simp only [Option.none_or]
    induction extra with
    | nil => rfl
    | cons head rest ih =>
      obtain ⟨k, v⟩ := head
      simp only [List.filter_cons]
      by_cases hk : name = k
      · subst hk
        simp [h]
      · have hne : (name == k) = false := beq_eq_false_iff_ne.mpr hk
        cases hb : (table.lookup k).isNone <;> simp [List.lookup_cons, hne, ih]

/-- Whether some of the names are not bound yet. -/
def adds (table extra : Definitions) : Bool :=
  extra.any fun (name, _) => (table.lookup name).isNone

theorem extend_eq_self_iff (table extra : Definitions) :
    table.extend extra = table ↔ table.adds extra = false := by
  rw [extend, List.append_right_eq_self, List.filter_eq_nil_iff, adds, List.any_eq_false]

theorem adds_of_adds_extend {table extra more : Definitions}
    (h : (table.extend extra).adds more) : table.adds more := by
  obtain ⟨⟨name, node⟩, hmem, hnone⟩ := List.any_eq_true.mp h
  refine List.any_eq_true.mpr ⟨(name, node), hmem, ?_⟩
  dsimp only at hnone ⊢
  rw [lookup_extend, Option.isNone_iff_eq_none, Option.or_eq_none_iff] at hnone
  rw [hnone.1]
  rfl

/-- Once they are added, none of the names is new. -/
theorem not_adds_extend (table extra : Definitions) : (table.extend extra).adds extra = false := by
  apply List.any_eq_false.mpr
  intro (name, node) hmem hnone
  dsimp only at hnone
  rw [lookup_extend, Option.isNone_iff_eq_none, Option.or_eq_none_iff] at hnone
  have hne := List.lookup_eq_none_iff.mp hnone.2 (name, node) hmem
  simp at hne

end Definitions

/-- Keywords that mark an object as a schema. -/
def schemaKeywords : List String :=
  ["type", "properties", "patternProperties", "additionalProperties", "items", "additionalItems",
   "required", "dependencies", "enum", "allOf", "anyOf", "oneOf", "$ref", "minimum", "maximum",
   "exclusiveMinimum", "exclusiveMaximum", "multipleOf", "minLength", "maxLength", "pattern",
   "format", "minItems", "maxItems", "uniqueItems", "minProperties", "maxProperties",
   "definitions", "title", "description", "default"]

/-- Whether a value is a schema rather than a table of schemas by name. A table is an
object with members, none of them a keyword and all of them objects. -/
def isSchemaLike : Json → Bool
  | .obj members =>
    members.isEmpty || (Members.keys members).any schemaKeywords.contains
      || !(Members.values members).all Json.isObject
  | _ => false

/-- What the shape of a schema says about its type. -/
def inferredType? (members : Members) : Option Json :=
  match members.lookup "type" with
  | some type => some type
  | none =>
    if Members.has members "properties" then some (.str "object")
    else if Members.has members "items" then some (.str "array")
    else none

end JsonSchema
