import JsonSchema.Check.Plan

/-! Constraints that are made of other schemas: a list of allowed values, all of, any
of, one of several schemas, and a reference to one. -/
namespace JsonSchema.Check

def combinatorTemplate : String := "\x7bkeyword\x7d must be an array of schemas"

/-- A combinator that is no array is a violation of its own. -/
def malformedCombinator (kind : Kind) : Finding :=
  { kind, details := [("keyword", .str kind.name)], template := combinatorTemplate }

def enumeration (schema members : Node) (value : Json) (path : Path) : Plan :=
  match members.json with
  | .arr allowed =>
    if allowed.any (·.same value) then .clean
    else .report schema value path { kind := .enum, details := [("value", .str value.brief)] }
  | other => .report schema value path
      { kind := .enumNoArray, details := [("enum", .str other.brief)] }

/-- The plans of checking a value against each of several nodes at one place. -/
def each (nodes : List Node) (value : Json) (path : Path) : List Plan :=
  nodes.map fun node => .enter node value path

def allOf (schema members : Node) (value : Json) (path : Path) : Plan :=
  if members.json.isArray then .all (each members.items value path)
  else .report schema value path (malformedCombinator .allOf)

def anyOf (schema members : Node) (value : Json) (path : Path) : Plan :=
  if members.json.isArray then
    .firstClean (.report schema value path { kind := .anyOf, details := [] })
      (each members.items value path)
  else .report schema value path (malformedCombinator .anyOf)

/-- What it means for a number of schemas to match where one should. -/
def oneOfVerdict : Nat → Option Finding
  | 0 => some { kind := .notOneOf, details := [] }
  | 1 => none
  | count => some { kind := .oneOf, details := [("matches", .int count)] }

def oneOf (schema members : Node) (value : Json) (path : Path) : Plan :=
  if members.json.isArray then
    .countClean (fun count => .ofVerdict schema value path (.ok (oneOfVerdict count))) 0
      (each members.items value path)
  else .report schema value path (malformedCombinator .oneOf)

/-- A reference is checked at the same place as the schema that holds it. -/
def reference (options : Options) (root schema : Node) (ref value : Json) (path : Path) : Plan :=
  if options.omitRefs.isOn then .clean
  else
    match resolve? ref options.definitions root with
    | .error bad => .fault (.index bad)
    | .ok none => .report schema value path { kind := .ref, details := [("ref", ref)] }
    | .ok (some target) => .follow ⟨ref.display, target, path⟩ value

end JsonSchema.Check
