import JsonSchema.Check.Number
import JsonSchema.Format

/-! Constraints on strings. A pattern that has no meaning is a violation of its own
constraint, whatever the string. -/
namespace JsonSchema.Check

/-- A limit on a count, if it is a number. -/
def tooFew (count : Nat) (limit : Json) : Bool :=
  limit.isNumber && (Json.int count).lt limit

def tooMany (count : Nat) (limit : Json) : Bool :=
  limit.isNumber && limit.lt (.int count)

def limitFinding (kind : Kind) (limit : Json) (broken : Bool) : Option Finding :=
  if broken then some { kind, details := [(kind.name, limit)] } else none

/-- The limits that a schema sets to a count. -/
def limitVerdicts (schema : Node) (least most : Kind) (count : Nat) : List Verdict :=
  let low := schema.value least.name
  let high := schema.value most.name
  [.ok (limitFinding least low (tooFew count low)),
   .ok (limitFinding most high (tooMany count high))]

/-- Whether a string matches what a schema gives as its pattern. -/
def matchesPattern (pattern : Json) (s : String) : Except Fault Bool :=
  match pattern with
  | .str text =>
    match (Pattern.ofText? text).bind (·.foundIn s) with
    | .ok found => .ok found
    | .error .malformed => .ok false
    | .error flaw => .error (.pattern flaw)
  | _ => .ok false

def pattern (schema : Node) (s : String) : Verdict :=
  match schema.member? "pattern" with
  | none => .ok none
  | some pattern => do
    if ← matchesPattern pattern.json s then return none
    else return some { kind := .pattern, details := [("pattern", pattern.json)] }

def formatNamed? : Json → Option Format
  | .str name => Format.named? name
  | _ => none

/-- Formats are looked at only if the options ask for it. -/
def format (options : Options) (schema : Node) (s : String) : Verdict :=
  match schema.member? "format" with
  | none => .ok none
  | some name =>
    if !options.validateFormat.isOn then .ok none
    else
      match formatNamed? name.json with
      | none => .ok (some { kind := .unknownFormat, details := [("format", name.json)] })
      | some format =>
        match format.accepts s with
        | .ok true => .ok none
        | .ok false => .ok (some { kind := .format, details := [("format", name.json)] })
        | .error flaw => .error (.pattern flaw)

def textVerdicts (options : Options) (schema : Node) (s : String) : List Verdict :=
  [pattern schema s, format options schema s]
    ++ limitVerdicts schema .minLength .maxLength s.length

end JsonSchema.Check
