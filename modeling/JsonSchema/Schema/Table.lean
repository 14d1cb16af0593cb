import JsonSchema.Schema.Reference

/-! Tables of schemas read from values. A table is an object, or a list of pairs of a name
and a schema. -/
namespace JsonSchema

/-- Why a value is no table. -/
inductive TableFlaw where
  | unusable
  /-- What stands for a pair has another length. -/
  | pairLength (index length : Nat)
deriving DecidableEq

/-- Whether a name is among the items of a value that is no object, or in its text. What
has neither cannot be asked, and counts as having every name. -/
def Json.mentions (json : Json) (name : String) : Bool :=
  match json with
  | .arr items => items.any fun
    | .str item => item == name
    | _ => false
  | .str s => Text.isPiece name.toList s.toList
  | _ => true

namespace Node

/-- Whether a value can be a name. -/
def canBeName (node : Node) : Bool :=
  !node.json.isArray && !node.json.isObject

/-- A name as it is shown; what is no text is named by its own text. -/
def asName (node : Node) : String :=
  match node.json with
  | .str name => name
  | other => other.text

/-- What a value holds when it is gone through: items, characters or names. -/
def elements? (node : Node) : Option (List Node) :=
  match node.json with
  | .arr _ => some node.items
  | .str s => some (s.toList.map fun c => ⟨.str (String.singleton c), none⟩)
  | .obj members => some (members.map fun (name, _) => ⟨.str name, none⟩)
  | _ => none

end Node

namespace Definitions

/-- Binds a name, in place if it is bound already. -/
def bind (name : String) (node : Node) : Definitions → Definitions
  | [] => [(name, node)]
  | (other, old) :: rest =>
    if other == name then (other, node) :: rest else (other, old) :: bind name node rest

/-- The table of a list of pairs, numbered from a given index on. -/
def ofPairs (table : Definitions) : Nat → List Node → Except TableFlaw Definitions
  | _, [] => .ok table
  | index, node :: rest =>
    match node.elements? with
    | none => .error .unusable
    | some [name, schema] =>
      if name.canBeName then ofPairs (table.bind name.asName schema) (index + 1) rest
      else .error .unusable
    | some elements => .error (.pairLength index elements.length)

/-- The table that a value amounts to. -/
def ofNode (node : Node) : Except TableFlaw Definitions :=
  match node.json with
  | .obj _ => .ok node.members
  | _ =>
    match node.elements? with
    | some elements => ofPairs [] 0 elements
    | none => .error .unusable

/-- Whether all names that a value holds are bound already. The first that is not decides;
what cannot be a name may not stand before it. -/
def bindsAll (table : Definitions) : List Node → Except TableFlaw Bool
  | [] => .ok true
  | name :: rest =>
    if !name.canBeName then .error .unusable
    else
      match name.json with
      | .str s => if (table.lookup s).isSome then table.bindsAll rest else .ok false
      | _ => .ok false

/-- Adds the names that are not bound yet, from any value. -/
def extendWith (table : Definitions) (node : Node) : Except TableFlaw Definitions := do
  match node.elements? with
  | none => throw .unusable
  | some elements =>
    if ← table.bindsAll elements then return table
    else return table.extend (← ofNode node)

/-- The table that a reference is looked up in, from any value. One that is no object is
as good as empty, as long as no name that is looked for is found in it. -/
def soughtIn (ref : Json) (node : Node) : Except TableFlaw Definitions :=
  match node.json with
  | .obj _ => .ok node.members
  | json => if (namesSought ref).any json.mentions then .error .unusable else .ok []

end Definitions

/-- What the shape of any value says about its type. A value that is no object can have
the names of a shape, but there is nothing to be found under them. -/
def inferredTypeOf (json : Json) : Except TableFlaw (Option Json) :=
  match json with
  | .obj members => .ok (inferredType? members)
  | _ =>
    if json.mentions "type" then .error .unusable
    else if json.mentions "properties" then .ok (some (.str "object"))
    else if json.mentions "items" then .ok (some (.str "array"))
    else .ok none

end JsonSchema
