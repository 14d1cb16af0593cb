import JsonSchema.Check.Combinator
import JsonSchema.Check.Text

/-! Constraints on arrays. Each item is checked by the one schema that its place gives
it: that of all items, that of its position in a tuple, or that of additional items. -/
namespace JsonSchema.Check

/-- Whether some text occurs twice. -/
def hasRepeat : List String → Bool
  | [] => false
  | text :: rest => rest.contains text || hasRepeat rest

def uniqueItems (schema : Node) (items : List Json) : Option Finding :=
  if (schema.value "uniqueItems").isTrue && hasRepeat (items.map Json.canonicalText) then
    some { kind := .uniqueItems, details := [] }
  else none

/-- Pairs items with their places. -/
def indexed (items : List Json) : List (Nat × Json) :=
  items.zipIdx.map fun (item, i) => (i, item)

/-- An item past the tuple: it is free, forbidden, to match one schema of several, or
to match a single one. -/
def additionalItem (schema additional : Node) (i : Nat) (item : Json) (path : Path) : Plan :=
  match additional.json with
  | .null | .bool true => .clean
  | .bool false =>
    .report schema item path { kind := .additionalItems, details := [("index", .int i)] }
  | .arr _ =>
    .firstClean
      (.report schema item path { kind := .itemNotValid, details := [("index", .int i)] })
      (each additional.items item path)
  | _ => .enter additional item path

/-- An item against a tuple of schemas and what is said about those past it. -/
def tupleItem (schema additional : Node) (tuple : List Node) (path : Path) (i : Nat)
    (item : Json) : Plan :=
  match tuple[i]? with
  | some node => .enter node item (path.index i)
  | none => additionalItem schema additional i item (path.index i)

def tupleItems (schema additional : Node) (tuple : List Node) (items : List Json) (path : Path) :
    Plan :=
  .all ((indexed items).map fun (i, item) => tupleItem schema additional tuple path i item)

/-- What a schema says about items past its tuple; the options say it otherwise. -/
def additionalItems (options : Options) (schema : Node) : Node :=
  (schema.member? "additionalItems").getD options.additionalItems

def isSchemaValue : Json → Bool
  | .null | .bool _ => false
  | _ => true

/-- Without a tuple every item is additional, but only a schema constrains them. -/
def items (options : Options) (schema : Node) (items : List Json) (path : Path) : Plan :=
  let additional := additionalItems options schema
  match schema.member? "items" with
  | none =>
    if isSchemaValue additional.json then tupleItems schema additional [] items path else .clean
  | some node =>
    if node.json.isArray then tupleItems schema additional node.items items path
    else .all ((indexed items).map fun (i, item) => .enter node item (path.index i))

def array (options : Options) (schema : Node) (value : Json) (elements : List Json)
    (path : Path) : Plan :=
  .both
    (.settle schema value path
      (limitVerdicts schema .minItems .maxItems elements.length
        ++ [.ok (uniqueItems schema elements)]))
    (items options schema elements path)

end JsonSchema.Check
