import JsonSchema.Check.Basic

/-! Constraints on numbers. Bounds compare exact values; divisibility is that of the
decimal texts, so that 0.3 is a multiple of 0.1. -/
namespace JsonSchema

namespace Json

def lt (a b : Json) : Bool :=
  match a.quantity?, b.quantity? with
  | some a, some b => a.lt b
  | _, _ => false

def le (a b : Json) : Bool :=
  match a.quantity?, b.quantity? with
  | some a, some b => a.le b
  | _, _ => false

/-- Whether a number is a whole multiple of a positive one. -/
def isMultipleOf (value divisor : Json) : Bool :=
  match value, divisor with
  | .int n, .int d => 0 < d && n % d == 0
  | _, _ =>
    match value.decimal?, divisor.decimal? with
    | some v, some d => 0 < d && (v / d).den == 1
    | _, _ => false

end Json

namespace Check

def multipleOf (schema : Node) (value : Json) : Option Finding :=
  (schema.member? "multipleOf").bind fun divisor =>
    if value.isMultipleOf divisor.json then none
    else some { kind := .multipleOf, details := [("multipleOf", divisor.json)] }

/-- A bound that must be reached is open if it is marked as exclusive. -/
def minimum (schema : Node) (value : Json) : Option Finding :=
  let bound := schema.value "minimum"
  if !bound.isNumber then none
  else if (schema.value "exclusiveMinimum").isTrue then
    if value.le bound then some { kind := .exclusiveMinimum, details := [("minimum", bound)] }
    else none
  else if value.lt bound then some { kind := .minimum, details := [("minimum", bound)] }
  else none

/-- A bound that stands in place of the mark is always open. -/
def exclusiveMinimum (schema : Node) (value : Json) : Option Finding :=
  let bound := schema.value "exclusiveMinimum"
  if bound.isNumber && value.le bound then
    some { kind := .exclusiveMinimum, details := [("minimum", bound)] }
  else none

def maximum (schema : Node) (value : Json) : Option Finding :=
  let bound := schema.value "maximum"
  if !bound.isNumber then none
  else if (schema.value "exclusiveMaximum").isTrue then
    if bound.le value then some { kind := .exclusiveMaximum, details := [("maximum", bound)] }
    else none
  else if bound.lt value then some { kind := .maximum, details := [("maximum", bound)] }
  else none

def exclusiveMaximum (schema : Node) (value : Json) : Option Finding :=
  let bound := schema.value "exclusiveMaximum"
  if bound.isNumber && bound.le value then
    some { kind := .exclusiveMaximum, details := [("maximum", bound)] }
  else none

def numberVerdicts (schema : Node) (value : Json) : List Verdict :=
  [.ok (multipleOf schema value), .ok (minimum schema value), .ok (exclusiveMinimum schema value),
   .ok (maximum schema value), .ok (exclusiveMaximum schema value)]

end Check

end JsonSchema
