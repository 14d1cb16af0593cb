import JsonSchema.Json.Basic

/-! Where a value stands inside another: the keys and indices on the way to it. -/
namespace JsonSchema

inductive Step where
  | key (name : String)
  | index (i : Int)
deriving DecidableEq

abbrev Path := List Step

namespace Step

/-- The step in the form of a message: an index in brackets, a key after a point. -/
def text : Step → String
  | .key name => "." ++ name
  | .index i => "[" ++ integerText i ++ "]"

/-- The step as a token of a pointer, before escaping. -/
def token : Step → String
  | .key name => name
  | .index i => integerText i

end Step

namespace Path

def text (path : Path) : String :=
  String.join (path.map Step.text)

/-- A tilde and a slash are escaped, so that slashes only separate tokens. -/
def escapeToken (token : String) : List Char :=
  token.toList.flatMap fun c =>
    if c = '~' then ['~', '0'] else if c = '/' then ['~', '1'] else [c]

def pointer (path : Path) : String :=
  String.ofList (path.flatMap fun step => '/' :: escapeToken step.token)

/-- The path with one more key at its end. -/
def key (path : Path) (name : String) : Path :=
  path ++ [.key name]

def index (path : Path) (i : Nat) : Path :=
  path ++ [.index i]

theorem text_append (p q : Path) : text (p ++ q) = text p ++ text q := by
  simp [text]

theorem pointer_append (p q : Path) : pointer (p ++ q) = pointer p ++ pointer q := by
  simp [pointer]

end Path

namespace Json

def child? : Json → Step → Option Json
  | .obj members, .key name => members.lookup name
  | .arr items, .index i => if 0 ≤ i then items[i.toNat]? else none
  | _, _ => none

/-- The value at a path. -/
def at? : Json → Path → Option Json
  | value, [] => some value
  | value, step :: rest => (value.child? step).bind (·.at? rest)

theorem at?_append (value : Json) (p q : Path) :
    value.at? (p ++ q) = (value.at? p).bind (·.at? q) := by
  induction p generalizing value with
  | nil => rfl
  | cons step rest ih =>
    simp only [List.cons_append, at?]
    cases value.child? step <;> simp [ih]

end Json

end JsonSchema
