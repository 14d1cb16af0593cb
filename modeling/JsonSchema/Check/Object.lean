import JsonSchema.Check.Plan
import JsonSchema.Check.Text

/-! Constraints on objects. Omitted properties are passed over; each of the others is
checked by its declared schema, by the schema of the first pattern that its name
matches, or by what is said about additional properties. -/
namespace JsonSchema.Check

/-- The declared properties. -/
def properties (schema : Node) : List (String × Node) :=
  ((schema.member? "properties").map Node.members).getD []

/-- Names that occur as strings in an array. -/
def namesIn : Json → List String
  | .arr items => items.filterMap fun item =>
    match item with
    | .str name => some name
    | _ => none
  | _ => []

/-- Adds the properties that say of themselves that they are required. -/
def markedNames (names : List String) : List (String × Node) → List String
  | [] => names
  | (name, node) :: rest =>
    if (node.value "required").isTrue && !names.contains name then
      markedNames (names ++ [name]) rest
    else markedNames names rest

def requiredNames (schema : Node) : List String :=
  markedNames (namesIn (schema.value "required")) (properties schema)

def required (options : Options) (schema : Node) (members : Members) : List Verdict :=
  (requiredNames schema).map fun name =>
    .ok (if Members.has members name || options.omits name then none
      else some { kind := .required, details := [("property", .str name)], below := [.key name] })

/-- What a property needs besides itself: another property, or that the whole object
matches a schema. -/
def dependency (schema : Node) (members : Members) (path : Path) (owner : String)
    (target : Node) : Plan :=
  match target.json with
  | .str name =>
    if Members.has members name then .clean
    else .report schema (.obj members) path
      { kind := .dependency, details := [("property", .str owner), ("dependency", .str name)] }
  | .obj _ => .enter target (.obj members) path
  | _ => .report schema (.obj members) path
      { kind := .dependencyNoProp, details := [("property", .str owner)] }

/-- What a declaration holds: one target, or an array of them. -/
def targets (declared : Node) : List Node :=
  if declared.json.isArray then declared.items else [declared]

/-- What the properties of an object need besides themselves. -/
def declaredDependencies (schema : Node) : List (String × Node) :=
  ((schema.member? "dependencies").map Node.members).getD []

def dependencies (options : Options) (schema : Node) (members : Members) (path : Path) : Plan :=
  .all ((declaredDependencies schema).map fun (owner, declared) =>
    if !Members.has members owner || options.omits owner then .clean
    else .all ((targets declared).map (dependency schema members path owner)))

/-- The schemas by the patterns of the names that they are for, if there are any. -/
def patternProperties? (schema : Node) : Option (List (String × Node)) :=
  match schema.member? "patternProperties" with
  | some node => if node.json.isObject then some node.members else none
  | none => none

/-- The names that are patterns, with their schemas. -/
def compiled (declared : List (String × Node)) : List (Pattern × Node) :=
  declared.filterMap fun (text, node) =>
    (Pattern.ofText? text).toOption.map fun pattern => (pattern, node)

/-- A name that is no pattern is a violation of its own. -/
def patternName (schema : Node) (value : Json) (path : Path) (text : String) : Plan :=
  match Pattern.ofText? text with
  | .ok _ => .clean
  | .error .malformed =>
    .report schema value path { kind := .pattern, details := [("pattern", .str text)] }
  | .error flaw => .fault (.pattern flaw)

/-- The schema of the first pattern that a name matches; null there is no schema. -/
def matching? (name : String) : List (Pattern × Node) → Except Fault (Option Node)
  | [] => .ok none
  | (pattern, node) :: rest =>
    match pattern.foundIn name with
    | .ok true => .ok (if node.isNull then none else some node)
    | .ok false => matching? name rest
    | .error flaw => .error (.pattern flaw)

/-- A property that is not allowed. -/
def forbidden (schema : Node) (members : Members) (name : String) (path : Path) : Plan :=
  .report schema (.obj members) path
    { kind := .additionalProperties, details := [("property", .str name)] }

/-- A property that is neither declared nor matched: free, forbidden, looked up in a
table of schemas by name, or to match a single schema. -/
def additionalProperty (schema additional : Node) (members : Members) (name : String)
    (value : Json) (path : Path) : Plan :=
  match additional.json with
  | .null | .bool true => .clean
  | .bool false => forbidden schema members name path
  | json =>
    if json.isObject && !isSchemaLike json then
      match additional.member? name with
      | some node => .enter node value path
      | none => forbidden schema members name path
    else .enter additional value path

/-- One property. Where there are patterns and nothing is said about additional
properties, a name that matches none of them is forbidden. -/
def property (options : Options) (schema : Node) (members : Members)
    (patterns : Option (List (Pattern × Node))) (path : Path) (name : String) (value : Json) :
    Plan :=
  match (properties schema).lookup name with
  | some node => .enter node value (path.key name)
  | none =>
    match matching? name (patterns.getD []), schema.member? "additionalProperties" with
    | .error fault, _ => .fault fault
    | .ok (some node), _ => .enter node value (path.key name)
    | .ok none, some additional =>
      additionalProperty schema additional members name value (path.key name)
    | .ok none, none =>
      if patterns.isSome then forbidden schema members name (path.key name)
      else additionalProperty schema options.additionalProperties members name value
        (path.key name)

/-- The members that are not passed over. -/
def kept (options : Options) (members : Members) : Members :=
  members.filter fun (name, _) => !options.omits name

def object (options : Options) (schema : Node) (members : Members) (path : Path) : Plan :=
  let value := Json.obj members
  let patterns := (patternProperties? schema).map compiled
  .all [
    .settle schema value path
      (limitVerdicts schema .minProperties .maxProperties (kept options members).length
        ++ required options schema members),
    dependencies options schema members path,
    .all (((patternProperties? schema).getD []).map fun (text, _) =>
      patternName schema value path text),
    .all ((kept options members).map fun (name, value) =>
      property options schema members patterns path name value)]

end JsonSchema.Check
