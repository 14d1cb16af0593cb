import JsonSchema.Check.Array
import JsonSchema.Check.Combinator
import JsonSchema.Check.Object

/-! Checking a value against a node. The first of enum, oneOf, allOf, anyOf and $ref
that a node has governs it; without one its type does, declared or told by its shape. -/
namespace JsonSchema

/-- The types that a schema can name. -/
inductive SchemaType where
  | boolean
  | number
  | integer
  | string
  | null
  | any
  | array
  | object
deriving DecidableEq

namespace SchemaType

def ofName? : String → Option SchemaType
  | "boolean" => some .boolean
  | "number" => some .number
  | "integer" => some .integer
  | "string" => some .string
  | "null" => some .null
  | "any" => some .any
  | "array" => some .array
  | "object" => some .object
  | _ => none

def name : SchemaType → String
  | .boolean => "boolean"
  | .number => "number"
  | .integer => "integer"
  | .string => "string"
  | .null => "null"
  | .any => "any"
  | .array => "array"
  | .object => "object"

end SchemaType

namespace Check

def mismatch (schema : Node) (value : Json) (path : Path) (expected : SchemaType) : Plan :=
  .report schema value path
    { kind := .type
      details := [("expected", .str expected.name), ("actual", .str value.kindName)] }

/-- A value of a known type and its constraints; of another type it is a violation and
nothing more is checked. -/
def ofType (options : Options) (schema : Node) (value : Json) (path : Path) : SchemaType → Plan
  | .any => .clean
  | .boolean =>
    match value with
    | .bool _ => .clean
    | _ => mismatch schema value path .boolean
  | .null =>
    match value with
    | .null => .clean
    | _ => mismatch schema value path .null
  | .number =>
    if value.isNumber then .settle schema value path (numberVerdicts schema value)
    else mismatch schema value path .number
  | .integer =>
    if value.isIntegral then .settle schema value path (numberVerdicts schema value)
    else mismatch schema value path .integer
  | .string =>
    match value with
    | .str s => .settle schema value path (textVerdicts options schema s)
    | _ => mismatch schema value path .string
  | .array =>
    match value with
    | .arr elements => array options schema value elements path
    | _ => mismatch schema value path .array
  | .object =>
    match value with
    | .obj members => object options schema members path
    | _ => mismatch schema value path .object

/-- How a message names a type: a string as it is, anything else by its text. -/
def typeText : Json → String
  | .str name => name
  | other => other.brief

def namedType? : Json → Option SchemaType
  | .str name => SchemaType.ofName? name
  | _ => none

def type (options : Options) (schema : Node) (value : Json) (path : Path) (type : Json) : Plan :=
  match namedType? type with
  | some type => ofType options schema value path type
  | none => .report schema value path
      { kind := .unknownType, details := [("type", .str (typeText type))] }

/-- A member of a union is a schema of its own, or the name of a type that is checked
with the rest of the node. -/
def unionMember (options : Options) (schema : Node) (value : Json) (path : Path) (member : Node) :
    Plan :=
  if member.json.isObject then .enter member value path
  else type options schema value path member.json

def union (options : Options) (schema members : Node) (value : Json) (path : Path) : Plan :=
  let types := ", ".intercalate (members.items.map fun member => typeText member.json)
  .firstClean
    (.report schema value path { kind := .unionTypeNotValid, details := [("types", .str types)] })
    (members.items.map (unionMember options schema value path))

/-- The type that governs a node: the declared one, or the one told by its shape. -/
def governingType? (schema : Node) : Option Node :=
  match schema.member? "type" with
  | some type => if type.isNull then none else some type
  | none =>
    match schema.json with
    | .obj members => (inferredType? members).map (⟨·, none⟩)
    | _ => none

/-- The check that governs a node. -/
def governing (options : Options) (root schema : Node) (value : Json) (path : Path) : Plan :=
  match schema.member? "enum" with
  | some members => enumeration schema members value path
  | none =>
  match schema.member? "oneOf" with
  | some members => oneOf schema members value path
  | none =>
  match schema.member? "allOf" with
  | some members => allOf schema members value path
  | none =>
  match schema.member? "anyOf" with
  | some members => anyOf schema members value path
  | none =>
  match schema.member? "$ref" with
  | some ref => reference options root schema ref.json value path
  | none =>
  match governingType? schema with
  | none => .clean
  | some governingType =>
    if governingType.json.isArray then union options schema governingType value path
    else type options schema value path governingType.json

/-- The definitions that a node declares, for itself and what is below it. -/
def declared (schema : Node) : Definitions :=
  ((schema.member? "definitions").map Node.members).getD []

/-- Null and an empty object accept everything; what is no object is no schema. -/
def node (options : Options) (root schema : Node) (value : Json) (path : Path) : Plan :=
  match schema.json with
  | .null | .obj [] => .clean
  | .obj _ => governing options root schema value path
  | other => .report schema value path
      { kind := .unknownSchema, details := [("schema", .str other.brief)] }

/-- An object without members has no keyword that could govern it. -/
theorem node_of_obj {schema : Node} {members : Members} (hjson : schema.json = .obj members)
    (options : Options) (root : Node) (value : Json) (path : Path) :
    node options root schema value path = governing options root schema value path := by
  unfold node
  rw [hjson]
  cases members with
  | nil => simp [governing, governingType?, Node.member?, hjson, inferredType?, Members.has]
  | cons member rest => rfl

/-- Checks a value within a budget of steps, with the definitions of the node in force.
The nesting of the value is limited by the options; references and combinators at one
place do not count. -/
def descend (guard : Guard) : Nat → Descent
  | 0, _, _, _, _ => throw .exhausted
  | budget + 1, scope, schema, value, path =>
    match Options.exceeds path.length scope.options.maxDepth with
    | none => throw .unusableOption
    | some true => throw (.refused (.depth scope.options.maxDepth) path.text)
    | some false =>
      let inner := guard.declare scope (declared schema)
      (node inner.options inner.root schema value path).run guard (descend guard budget) inner

end Check

end JsonSchema
