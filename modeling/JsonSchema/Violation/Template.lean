import JsonSchema.Json.Display
import JsonSchema.Text.Digit

/-! Message templates. A field is a name in braces and stands for the detail of that
name; a brace that is written twice stands for itself. Fields are filled from left to
right, and the first that has no detail leaves the whole template as it is. -/
namespace JsonSchema

inductive Template.Flaw where
  | singleOpening
  | singleClosing
  | unclosedField
  | openingInField
  | numberTooLarge
deriving DecidableEq

namespace Template

def Flaw.message : Flaw → String
  | .singleOpening => "Single '\x7b' encountered in format string"
  | .singleClosing => "Single '\x7d' encountered in format string"
  | .unclosedField => "expected '\x7d' before end of string"
  | .openingInField => "unexpected '\x7b' in field name"
  | .numberTooLarge => "Too many decimal digits in format string"

inductive Piece where
  | char (c : Char)
  | field (name : List Char)
  | flaw (flaw : Flaw)

/-- The pieces of a template up to its first flaw. Inside a field the characters of its
name are collected, the last one first. -/
def pieces : Option (List Char) → List Char → List Piece
  | none, [] => []
  | none, '\x7b' :: '\x7b' :: rest => .char '\x7b' :: pieces none rest
  | none, '\x7d' :: '\x7d' :: rest => .char '\x7d' :: pieces none rest
  | none, '\x7d' :: _ => [.flaw .singleClosing]
  | none, ['\x7b'] => [.flaw .singleOpening]
  | none, '\x7b' :: rest => pieces (some []) rest
  | none, c :: rest => .char c :: pieces none rest
  | some _, [] => [.flaw .unclosedField]
  | some name, '\x7d' :: rest => .field name.reverse :: pieces none rest
  | some _, '\x7b' :: _ => [.flaw .openingInField]
  | some name, c :: rest => pieces (some (c :: name)) rest

/-- Numbers that a field may ask for stay below this one. -/
def positionLimit : Nat := Nat.pow 2 63

/-- Whether all characters are digits, of a number that goes on from a given one. The
digits are counted up as they come, so too large a number is a flaw even in front of
other characters. -/
def areDigits (soFar : Nat) : List Char → Except Flaw Bool
  | [] => .ok true
  | c :: rest =>
    match Text.digitValue? c with
    | none => .ok false
    | some digit =>
      let n := soFar * 10 + digit
      if n < positionLimit then areDigits n rest else .error .numberTooLarge

/-- What a field stands for. There are no numbered details, so an empty name and a
number find nothing. -/
def detail? (details : Members) (name : List Char) : Except Flaw (Option Json) :=
  (areDigits 0 name).map fun isNumber =>
    if isNumber then none else details.lookup (String.ofList name)

/-- The filled template, or `none` where a detail is missing. -/
def fill (details : Members) : List Piece → Except Flaw (Option (List Char))
  | [] => .ok (some [])
  | .char c :: rest => (fill details rest).map (·.map (c :: ·))
  | .flaw flaw :: _ => .error flaw
  | .field name :: rest =>
    match detail? details name with
    | .error flaw => .error flaw
    | .ok none => .ok none
    | .ok (some value) => (fill details rest).map (·.map (value.display.toList ++ ·))

/-- The message that a template and its details make. -/
def render (template : String) (details : Members) : Except Flaw String :=
  (fill details (pieces none template.toList)).map fun filled =>
    (filled.map String.ofList).getD template

end Template

end JsonSchema
