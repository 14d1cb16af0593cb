import JsonSchema.Json.Display
import JsonSchema.Path
import JsonSchema.Pattern.Flaw
import JsonSchema.Schema.Reference
import JsonSchema.Schema.Table
import JsonSchema.Violation.Template

/-! What can end a validation without a list of violations. -/
namespace JsonSchema

/-- Why a schema or the options of a run cannot be used. -/
inductive Refusal where
  | schemaNotObject (given : Json)
  | definitionsNotObject
  | optionsNotObject (given : Json)
  | unknownOption (name : String)
  | omittedIsText
  | tableNotObject
  | hookNotCallable
  | cycle (references : List String)
  | depth (limit : Json)
  | stated (message : String)

namespace Refusal

/-- The type of a value as messages call it. -/
def typeWord : Json → String
  | .null => "NoneType"
  | .bool _ => "bool"
  | .int _ => "int"
  | .float _ => "float"
  | .str _ => "str"
  | .arr _ => "list"
  | .obj _ => "dict"

def message : Refusal → String
  | .schemaNotObject given => "Schema must be a mapping, got " ++ typeWord given
  | .definitionsNotObject => "Schema definitions must be a mapping of names to schemas"
  | .optionsNotObject given =>
    "Options must be a mapping or ValidationOptions, got " ++ typeWord given
  | .unknownOption name => "Unknown validation option: " ++ name
  | .omittedIsText => "omit_properties must be a collection of property names"
  | .tableNotObject => "definitions must be a mapping of names to schemas"
  | .hookNotCallable => "on_error must be callable"
  | .cycle references => "Circular schema reference: " ++ " -> ".intercalate references
  | .depth limit => "Maximum validation depth (" ++ limit.display ++ ") exceeded"
  | .stated message => message

end Refusal

inductive Fault where
  /-- The schema or the options are unusable, with the place where that came up. -/
  | refused (refusal : Refusal) (context : Option String)
  /-- A hook has asked to stop. -/
  | stopped (message : String)
  /-- An option has a value of a type that cannot be used. -/
  | unusableOption
  /-- A detail has a name that it may not have. -/
  | unusableDetail
  /-- Options that have to be given as an object are not. -/
  | optionsShape
  | pattern (flaw : Pattern.Flaw)
  | index (bad : BadIndex)
  | table (flaw : TableFlaw)
  | template (flaw : Template.Flaw)
  /-- The budget of a run is spent; the budget that is computed for it never is. -/
  | exhausted

namespace Fault

/-- The message without the context. -/
def summary : Fault → String
  | .refused refusal _ => refusal.message
  | .stopped message => message
  | .unusableOption | .unusableDetail | .optionsShape | .exhausted => ""
  | .pattern .malformed | .pattern .codePointTooLarge | .pattern .lookBehindTooWide
  | .pattern .crossedGroup => ""
  | .pattern .repetitionTooLarge => "the repetition number is too large"
  | .pattern .incompatibleFlags => "ASCII and UNICODE flags are incompatible"
  | .pattern (.tooManyDigits count) => digitLimitMessage count
  | .table .unusable => ""
  | .table (.pairLength i length) =>
    "dictionary update sequence element #" ++ integerText i ++ " has length "
      ++ integerText length ++ "; 2 is required"
  | .index ⟨token, .notANumber⟩ =>
    "invalid literal for int() with base 10: "
      ++ String.ofList ((Json.displayQuoted token).take 200)
  | .index ⟨_, .tooManyDigits count⟩ => digitLimitMessage count
  | .template flaw => flaw.message

/-- The message, with the context if there is one that is not empty. -/
def message : Fault → String
  | .refused refusal (some context) =>
    if context.isEmpty then refusal.message
    else refusal.message ++ " (context: " ++ context ++ ")"
  | fault => fault.summary

end Fault

end JsonSchema
