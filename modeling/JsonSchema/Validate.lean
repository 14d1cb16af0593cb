import JsonSchema.Check.Node

/-! Validating a value against a schema. -/
namespace JsonSchema

/-- The options of a call: none, settings by name, options that have been built before,
or something that is neither. -/
inductive Given where
  | absent
  | settings (settings : Options.Settings)
  | built (options : Options)
  | unusable (json : Json)

namespace Given

/-- Settings overwrite the standard options one by one; built options replace them. -/
def options : Given → Except Fault Options
  | .absent => .ok .standard
  | .settings given => Options.standard.merge given
  | .built given => .ok given
  | .unusable json => .error (.refused (.optionsNotObject json) none)

end Given

namespace Options

/-- How large the schemas are that come with the options. -/
def size (options : Options) : Nat :=
  options.additionalProperties.json.size + options.additionalItems.json.size
    + options.definitions.size

end Options

/-- Enough steps for every run with schemas of some size in all on a value of some depth:
at each place on the way into the value, with each set of names that are bound, every
reference can lead to every node once, and between two references there are no more steps
than the schemas are large. -/
def budget (size depth : Nat) : Nat :=
  (depth + 1) * ((size + 1) * ((size * size + 1) * (size + 1)))

/-- Definitions at the root have to be an object, or missing. -/
def rootDefinitions? (schema : Node) : Except Fault Definitions :=
  match schema.value "definitions" with
  | .null => .ok []
  | .obj _ => .ok (Check.declared schema)
  | _ => .error (.refused .definitionsNotObject (some "definitions"))

/-- The options that a run starts with, definitions at the root among them, unless there
is nothing to check: null and the empty object accept every value, and null does so
before the options are looked at. -/
def opening? (schema : Json) (given : Given) : Except Fault (Option Options) := do
  match schema with
  | .null => return none
  | .obj members =>
    let options ← given.options
    if members.isEmpty then return none
    else return some (options.withDefinitions (← rootDefinitions? (.document .schema schema)))
  | other => throw (.refused (.schemaNotObject other) none)

/-- All violations, in the order in which they are found, with a guard and a budget. -/
def validateWith (guard : Guard) (budget : Options → Nat) (schema value : Json) (given : Given) :
    Check (List Violation) := do
  match ← opening? schema given with
  | none => return []
  | some options =>
    let root := Node.document .schema schema
    Check.descend guard (budget options) (.start options root) root value []

/-- The budget of a run with some schema and options on a value. -/
def enough (schema value : Json) (options : Options) : Nat :=
  budget (schema.size + options.size) value.depth

def validate (schema value : Json) (given : Given) : Check (List Violation) :=
  validateWith .chain (enough schema value) schema value given

def isValid (schema value : Json) (given : Given) : Check Bool := do
  return (← validate schema value given).isEmpty

/-- The outcome of a validation, labelled with the place of the value if it has one. -/
structure Report where
  violations : List Violation
  label : String

namespace Report

def isValid (report : Report) : Bool :=
  report.violations.isEmpty

def text (report : Report) : String :=
  if report.isValid then
    if report.label.isEmpty then "Valid" else "Valid: " ++ report.label
  else
    "Invalid: " ++ (if report.label.isEmpty then "" else report.label ++ ": ")
      ++ "; ".intercalate (report.violations.map Violation.text)

end Report

def validateInstance (schema value : Json) (given : Given) (label : String) : Check Report := do
  return ⟨← validate schema value given, label⟩

end JsonSchema
