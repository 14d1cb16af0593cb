import JsonSchema.Json.Writer

/-! The canonical form of a value: members sorted by key and integral numbers written
as integers. Two values are structurally equal when their canonical texts are. -/
namespace JsonSchema.Json

def sortMembers (members : Members) : Members :=
  members.mergeSort fun a b => decide (a.1 ≤ b.1)

mutual

def canonical : Json → Json
  | .float x =>
    match x.toInt? with
    | some n => .int n
    | none => .float x
  | .arr items => .arr (canonicalItems items)
  | .obj members => .obj (sortMembers (canonicalMembers members))
  | value => value

def canonicalItems : List Json → List Json
  | [] => []
  | item :: rest => item.canonical :: canonicalItems rest

def canonicalMembers : List (String × Json) → List (String × Json)
  | [] => []
  | (name, value) :: rest => (name, value.canonical) :: canonicalMembers rest

end

def canonicalText (value : Json) : String :=
  value.canonical.text

/-- Structural equality: the order of members and the spelling of numbers do not count. -/
def same (a b : Json) : Bool :=
  a.canonicalText == b.canonicalText

/-- A text within a limit as it is, a longer one cut to make room for three dots. A
limit below three leaves off that many characters at the end instead. -/
def shorten (limit : Int) (text : String) : String :=
  let chars := text.toList
  if (chars.length : Int) ≤ limit then text
  else
    let kept := if 3 ≤ limit then (limit - 3).toNat else chars.length - (3 - limit).toNat
    String.ofList (chars.take kept) ++ "..."

/-- A text within a limit that is given as a value: a number, or a boolean in place of
0 or 1. A fraction can be compared with, but not cut at. -/
def shortenWith? (limit : Json) (text : String) : Option String :=
  match limit with
  | .bool b => some (shorten b.toNat text)
  | .int n => some (shorten n text)
  | .float x =>
    if x.quantity?.any (·.lt (.ofNat text.length)) then none else some text
  | _ => none

/-- How a message quotes a value: in no more than 60 characters. -/
def brief (value : Json) : String :=
  shorten 60 value.canonicalText

end JsonSchema.Json
