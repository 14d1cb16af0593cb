import JsonSchema.Placeholder

/-! Values made up in place: one set of the references that are being followed is shared by the
whole recursion. What is added to it for a reference is taken out again when that ends. -/
namespace JsonSchema.Placeholder

/-- A reference that is being followed, with the place of the schema that it leads to. -/
structure Followed where
  reference : String
  target : Option Address
deriving DecidableEq

abbrev Active := List Followed

/-- What an action does to the set remains when it ends in a fault. -/
abbrev Creation := ExceptT Fault (StateM Active)

namespace Creation

/-- The outcome of an action and the set after it. -/
def on {α : Type} (action : Creation α) (active : Active) : Except Fault α × Active :=
  action.run.run active

/-- A reference is in the set for as long as an action takes. -/
def following {α : Type} (key : Followed) (action : Creation α) : Creation α := do
  modify fun (active : Active) => active.insert key
  try action
  finally modify fun (active : Active) => active.erase key

end Creation

/-- The value for a node, within a budget of steps. -/
def createInPlace (table : Definitions) (root : Node) : Nat → Node → Creation Json
  | 0, _ => throw .exhausted
  | budget + 1, node =>
    match shape node with
    | .value json => return json
    | .schema node => createInPlace table root budget node
    | .properties members => do
      let created ← members.mapM fun (member : String × Node) => do
        return (member.1, ← createInPlace table root budget member.2)
      return .obj created
    | .reference ref => do
      match ← (resolve? ref table root).mapError Fault.index with
      | none => return .obj []
      | some target =>
        let key : Followed := ⟨ref.display, target.address⟩
        if key ∈ (← get) then return .obj []
        else Creation.following key (createInPlace table root budget target)

end JsonSchema.Placeholder
