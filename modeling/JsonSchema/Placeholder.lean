import JsonSchema.Fault
import JsonSchema.Schema.Reference

/-! Values made up for a schema. What the schema states comes first: a default, then
the first allowed value, then the schema a reference leads to, then the first member of
a combinator, and last a plain value of the type. -/
namespace JsonSchema.Placeholder

/-- The plain value of a type without parts. -/
def ofTypeName : String → Json
  | "boolean" => .bool true
  | "number" | "integer" => .int 0
  | "string" => .str ""
  | "array" => .arr []
  | _ => .null

def combinators : List String := ["allOf", "anyOf", "oneOf"]

/-- What a schema turns on when it states no value of its own. -/
inductive Shape where
  | value (json : Json)
  | reference (ref : Json)
  | schema (node : Node)
  | properties (members : List (String × Node))

def ofCombinator (members : Node) : Shape :=
  match members.items with
  | [] => .value .null
  | first :: _ => .schema first

/-- The shape that the type alone gives. A list of types stands for its first one. -/
def ofType (node type : Node) : Shape :=
  let first := if type.json.isArray then type.items.head? else some type
  match first with
  | none => .value .null
  | some first =>
    match first.json with
    | .obj _ => if type.json.isArray then .schema first else .value .null
    | .str "object" =>
      .properties (((node.member? "properties").map Node.members).getD [])
    | .str name => .value (ofTypeName name)
    | _ => .value .null

def typeOf? (node : Node) : Option Node :=
  match node.member? "type" with
  | some type => some type
  | none =>
    match node.json with
    | .obj members => (inferredType? members).map (⟨·, none⟩)
    | _ => none

def shape (node : Node) : Shape :=
  match node.member? "default", node.value "enum", node.member? "$ref" with
  | some value, _, _ => .value value.json
  | none, .arr allowed, _ => .value (allowed.head?.getD .null)
  | none, _, some ref => .reference ref.json
  | none, _, none =>
    match combinators.findSome? node.member? with
    | some members => ofCombinator members
    | none =>
      match typeOf? node with
      | some type => ofType node type
      | none => .value .null

/-- The value for a node, within a budget of steps. A reference that is already being
followed, or that leads nowhere, gives an empty object. -/
def create (table : Definitions) (root : Node) : Nat → List Json → Node → Except Fault Json
  | 0, _, _ => .error .exhausted
  | budget + 1, active, node =>
    match shape node with
    | .value json => .ok json
    | .schema node => create table root budget active node
    | .properties members => do
      let created ← members.mapM fun (member : String × Node) => do
        return (member.1, ← create table root budget active member.2)
      return .obj created
    | .reference ref => do
      match ← (resolve? ref table root).mapError Fault.index with
      | none => return .obj []
      | some target =>
        if active.any (·.text == ref.text) then return .obj []
        else create table root budget (ref :: active) target

end Placeholder

/-- A value for a schema, with definitions that take precedence over its own. Every
reference is followed once at most, and between two references there are no more steps
than the schemas are large. -/
def createValue (schema : Json) (definitions : Definitions) : Except Fault Json :=
  let root := Node.document .schema schema
  let own := ((root.member? "definitions").map Node.members).getD []
  let table := definitions.extend own
  let size := schema.size + definitions.size
  Placeholder.create table root ((size + 1) * (size + 1) + 1) [] root

/-- The same with definitions from any value. What is empty adds none. -/
def createValueWith (schema : Json) (given : Node) : Except Fault Json := do
  if given.json.isOn then createValue schema (← (Definitions.ofNode given).mapError .table)
  else createValue schema []

end JsonSchema
