import JsonSchema.Fault
import JsonSchema.Json.Canonical
import JsonSchema.Schema.Node
import JsonSchema.Violation.Basic

/-! The options of a validation: how strict it is, which definitions it starts from, and
who is told about violations as they are found. -/
namespace JsonSchema

/-- A violation as a hook hears of it, with the schema and the value at fault and the
text of its place. -/
structure Notice where
  violation : Violation
  schema : Json
  value : Json
  place : String

/-- The notice of a violation tells its own place. -/
def Violation.notice (violation : Violation) (schema value : Json) : Notice :=
  ⟨violation, schema, value, violation.path.text⟩

/-- A hook hears of every violation, in order, and may ask to stop. -/
abbrev Hook := List Notice → Option String

structure Options where
  validateFormat : Json
  additionalProperties : Node
  additionalItems : Node
  omitProperties : Option (List Json)
  omitRefs : Json
  hook : Option Hook
  definitions : Definitions
  maxDepth : Json

namespace Options

def standard : Options where
  validateFormat := .bool false
  additionalProperties := ⟨.bool true, none⟩
  additionalItems := ⟨.bool true, none⟩
  omitProperties := none
  omitRefs := .bool false
  hook := none
  definitions := []
  maxDepth := .int 100

inductive Field where
  | validateFormat
  | additionalProperties
  | additionalItems
  | omitProperties
  | omitRefs
  | onError
  | definitions
  | maxDepth
deriving DecidableEq

/-- Each option has a name in two spellings. -/
def Field.ofName? : String → Option Field
  | "validate_format" | "validateFormat" => some .validateFormat
  | "additional_properties" | "additionalProperties" => some .additionalProperties
  | "additional_items" | "additionalItems" => some .additionalItems
  | "omit_properties" | "omitProperties" => some .omitProperties
  | "omit_refs" | "omitRefs" => some .omitRefs
  | "on_error" | "onError" => some .onError
  | "definitions" => some .definitions
  | "max_depth" | "maxDepth" => some .maxDepth
  | _ => none

/-- The value of an option: one from a text, or a hook. -/
inductive Setting where
  | given (node : Node)
  | hook (hook : Hook)

abbrev Settings := List (String × Setting)

/-- The settings by field; of two for one field the later one counts. -/
abbrev Normalized := List (Field × Setting)

def assign (field : Field) (setting : Setting) (settings : Normalized) : Normalized :=
  settings.filter (·.1 ≠ field) ++ [(field, setting)]

theorem lookup_assign (field : Field) (setting : Setting) (settings : Normalized)
    (other : Field) :
    (assign field setting settings).lookup other =
      if other = field then some setting else settings.lookup other := by
  rw [assign, List.lookup_append]
  induction settings with
  | nil =>
    by_cases h : other = field
    · simp [h]
    · have hne : (other == field) = false := by simp [h]
      simp [List.lookup_cons, h, hne]
  | cons head rest ih =>
    obtain ⟨k, s⟩ := head
    by_cases hk : k = field
    · subst hk
      by_cases h : other = k
      · simpa [h] using ih
      · have hne : (other == k) = false := by simp [h]
        simpa [h, List.lookup_cons, hne] using ih
    · by_cases ho : other = k
      · subst ho
        simp [hk]
      · have hne : (other == k) = false := by simp [ho]
        simpa [hk, List.lookup_cons, hne] using ih

def normalizeFrom (done : Normalized) : Settings → Except Fault Normalized
  | [] => .ok done
  | (name, setting) :: rest =>
    match Field.ofName? name with
    | some field => normalizeFrom (assign field setting done) rest
    | none => .error (.refused (.unknownOption name) none)

def normalize (settings : Settings) : Except Fault Normalized :=
  normalizeFrom [] settings

/-- Names are compared as values are: a boolean counts as the number 0 or 1. -/
def nameKey : Json → Json
  | .bool b => .int (if b then 1 else 0)
  | json => json.canonical

def isSameName (a b : Json) : Bool :=
  (nameKey a).text == (nameKey b).text

/-- Whether a value can be a member of a collection of names. -/
def canBeName : Json → Bool
  | .arr _ | .obj _ => false
  | _ => true

/-- A collection of names: nothing, an array of scalars, or the keys of an object. -/
def names? : Json → Except Fault (Option (List Json))
  | .null => .ok none
  | .str _ => .error (.refused .omittedIsText none)
  | .arr items =>
    if items.all canBeName then
      .ok (some (items.foldl (fun names item =>
        if names.any (isSameName item) then names else names ++ [item]) []))
    else .error .unusableOption
  | .obj members => .ok (some (members.map fun (name, _) => .str name))
  | _ => .error .unusableOption

def table? (node : Node) : Except Fault Definitions :=
  match node.json with
  | .null => .ok []
  | .obj _ => .ok node.members
  | _ => .error (.refused .tableNotObject none)

def hook? : Setting → Except Fault (Option Hook)
  | .hook hook => .ok (some hook)
  | .given ⟨.null, _⟩ => .ok none
  | .given _ => .error (.refused .hookNotCallable none)

def node? : Setting → Option Node
  | .given node => some node
  | .hook _ => none

/-- The node that a setting gives, if it is given one. -/
def givenNode? (settings : Normalized) (field : Field) : Option Node :=
  (settings.lookup field).bind node?

def nodeFor (settings : Normalized) (field : Field) (current : Node) : Node :=
  (givenNode? settings field).getD current

def jsonFor (settings : Normalized) (field : Field) (current : Json) : Json :=
  ((givenNode? settings field).map Node.json).getD current

def omittedFor? (settings : Normalized) (current : Option (List Json)) :
    Except Fault (Option (List Json)) :=
  match givenNode? settings .omitProperties with
  | some given => names? given.json
  | none => .ok current

def tableFor? (settings : Normalized) (current : Definitions) : Except Fault Definitions :=
  match givenNode? settings .definitions with
  | some given => table? given
  | none => .ok current

def hookFor? (settings : Normalized) (current : Option Hook) : Except Fault (Option Hook) :=
  match settings.lookup .onError with
  | some setting => hook? setting
  | none => .ok current

/-- The options with normalized settings in place of what they were. The settings that
can be refused are looked at in a fixed order: names to omit, definitions, hook. -/
def apply (options : Options) (settings : Normalized) : Except Fault Options := do
  let omitProperties ← omittedFor? settings options.omitProperties
  let definitions ← tableFor? settings options.definitions
  let hook ← hookFor? settings options.hook
  return {
    validateFormat := jsonFor settings .validateFormat options.validateFormat
    additionalProperties := nodeFor settings .additionalProperties options.additionalProperties
    additionalItems := nodeFor settings .additionalItems options.additionalItems
    omitProperties
    omitRefs := jsonFor settings .omitRefs options.omitRefs
    hook
    definitions
    maxDepth := jsonFor settings .maxDepth options.maxDepth }

def merge (options : Options) (settings : Settings) : Except Fault Options := do
  options.apply (← normalize settings)

/-- The settings that a document holds. -/
def settingsOf (node : Node) : Settings :=
  node.members.map fun (name, node) => (name, .given node)

def withDefinitions (options : Options) (extra : Definitions) : Options :=
  { options with definitions := options.definitions.extend extra }

/-- Adds definitions from any value. What is empty adds nothing. -/
def extendWith (options : Options) (node : Node) : Except Fault Options :=
  if node.json.isOn then
    (options.definitions.extendWith node).map (fun definitions => { options with definitions })
      |>.mapError .table
  else .ok options

def omits (options : Options) (name : String) : Bool :=
  options.omitProperties.any fun names => names.any (isSameName (.str name))

/-- Whether a value is among the names to omit; only what can be a name may be asked
for. -/
def omitsValue (options : Options) (value : Json) : Except Fault Bool :=
  match options.omitProperties with
  | none => .ok false
  | some names =>
    if canBeName value then .ok (names.any (isSameName value)) else .error .unusableOption

/-- Whether a path of that length goes beyond the limit on nesting, which has to be a
number; a boolean counts as one here. -/
def exceeds (length : Nat) : Json → Option Bool
  | .bool b => some (decide (b.toNat < length))
  | .int n => some (decide (n < length))
  | .float x => some (x.quantity?.any (·.lt (.ofNat length)))
  | _ => none

end Options

end JsonSchema
