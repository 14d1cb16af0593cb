import JsonSchema.Options

/-! How options are made. The constructor takes something for every field, looks at three of them
and puts them into the form in which they are kept; what options hold is in that form already. -/
namespace JsonSchema.Options

/-- What the constructor is handed for a field that it looks at: a value as it is given, or what
options hold that have been made before. -/
inductive Supplied (raw held : Type) where
  | fresh (value : raw)
  | kept (value : held)

/-- What is given is put into form; what has been kept is in form. -/
def Supplied.formed {raw held : Type} (form : raw → Except Fault held) :
    Supplied raw held → Except Fault held
  | .fresh value => form value
  | .kept value => .ok value

structure Arguments where
  validateFormat : Json
  additionalProperties : Node
  additionalItems : Node
  omitProperties : Supplied Node (Option (List Json))
  omitRefs : Json
  onError : Supplied Setting (Option Hook)
  definitions : Supplied Node Definitions
  maxDepth : Json

/-- The constructor. What it can refuse it looks at in a fixed order: names to omit, definitions,
hook. -/
def construct (arguments : Arguments) : Except Fault Options := do
  let omitProperties ← arguments.omitProperties.formed fun node => names? node.json
  let definitions ← arguments.definitions.formed table?
  let hook ← arguments.onError.formed hook?
  return {
    validateFormat := arguments.validateFormat
    additionalProperties := arguments.additionalProperties
    additionalItems := arguments.additionalItems
    omitProperties
    omitRefs := arguments.omitRefs
    hook
    definitions
    maxDepth := arguments.maxDepth }

/-- What the constructor takes for fields that nothing is given for. -/
def Arguments.default : Arguments where
  validateFormat := .bool false
  additionalProperties := ⟨.bool true, none⟩
  additionalItems := ⟨.bool true, none⟩
  omitProperties := .fresh ⟨.null, none⟩
  omitRefs := .bool false
  onError := .fresh (.given ⟨.null, none⟩)
  definitions := .fresh ⟨.obj [], none⟩
  maxDepth := .int 100

/-- What options hand on when they are copied. -/
def arguments (options : Options) : Arguments where
  validateFormat := options.validateFormat
  additionalProperties := options.additionalProperties
  additionalItems := options.additionalItems
  omitProperties := .kept options.omitProperties
  omitRefs := options.omitRefs
  onError := .kept options.hook
  definitions := .kept options.definitions
  maxDepth := options.maxDepth

/-- The arguments with what is given in place of what they were. -/
def Arguments.changed (arguments : Arguments) (changes : Normalized) : Arguments where
  validateFormat := jsonFor changes .validateFormat arguments.validateFormat
  additionalProperties := nodeFor changes .additionalProperties arguments.additionalProperties
  additionalItems := nodeFor changes .additionalItems arguments.additionalItems
  omitProperties := ((givenNode? changes .omitProperties).map .fresh).getD arguments.omitProperties
  omitRefs := jsonFor changes .omitRefs arguments.omitRefs
  onError := ((changes.lookup .onError).map .fresh).getD arguments.onError
  definitions := ((givenNode? changes .definitions).map .fresh).getD arguments.definitions
  maxDepth := jsonFor changes .maxDepth arguments.maxDepth

/-- Options from settings alone. -/
def ofSettings (settings : Settings) : Except Fault Options := do
  construct (Arguments.default.changed (← normalize settings))

/-- To apply settings is to make a copy with them. -/
theorem apply_eq_construct (options : Options) (changes : Normalized) :
    options.apply changes = construct (options.arguments.changed changes) := by
  have homitted : omittedFor? changes options.omitProperties =
      (options.arguments.changed changes).omitProperties.formed fun node => names? node.json := by
    unfold omittedFor? Arguments.changed
    dsimp only
    cases givenNode? changes .omitProperties <;> rfl
  have htable : tableFor? changes options.definitions =
      (options.arguments.changed changes).definitions.formed table? := by
    unfold tableFor? Arguments.changed
    dsimp only
    cases givenNode? changes .definitions <;> rfl
  have hhook : hookFor? changes options.hook =
      (options.arguments.changed changes).onError.formed hook? := by
    unfold hookFor? Arguments.changed
    dsimp only
    cases changes.lookup .onError <;> rfl
  rw [apply, construct, homitted, htable, hhook]
  rfl

/-- The name that a field has in options. -/
def Field.name : Field → String
  | .validateFormat => "validate_format"
  | .additionalProperties => "additional_properties"
  | .additionalItems => "additional_items"
  | .omitProperties => "omit_properties"
  | .omitRefs => "omit_refs"
  | .onError => "on_error"
  | .definitions => "definitions"
  | .maxDepth => "max_depth"

theorem Field.ofName?_name (field : Field) : ofName? field.name = some field := by
  cases field <;> rfl

end JsonSchema.Options
