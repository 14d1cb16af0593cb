import JsonSchema.Path
import JsonSchema.Violation.Kind
import JsonSchema.Violation.Template

/-! A violation: which constraint fails for the value at which place, and the details
that its message is made of. -/
namespace JsonSchema

structure Violation where
  path : Path
  kind : Kind
  details : Members
  message : String

namespace Violation

/-- A violation whose message follows a template, by default that of its kind. -/
def make (path : Path) (kind : Kind) (details : Members) (template : Option String) :
    Except Template.Flaw Violation :=
  (Template.render (template.getD kind.template) details).map fun message =>
    ⟨path, kind, details, message⟩

/-- A violation worded by a template that is known to be well formed. -/
def of (path : Path) (kind : Kind) (details : Members) (template : String) : Violation :=
  ⟨path, kind, details, (Template.render template details).toOption.getD template⟩

def text (v : Violation) : String :=
  let place := v.path.text
  v.message ++ " at " ++ (if place.isEmpty then "<root>" else place)

end Violation

end JsonSchema
