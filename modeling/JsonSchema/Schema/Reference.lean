import JsonSchema.Json.Display
import JsonSchema.Schema.Node
import JsonSchema.Text.Integer
import JsonSchema.Text.Percent
import JsonSchema.Text.Split

/-! References to schemas: a name, or a fragment that points into a document. -/
namespace JsonSchema

namespace Pointer

/-- A token with its escapes undone; a tilde must be followed by 0 or 1. -/
def unescape? : List Char → Option (List Char)
  | [] => some []
  | '~' :: '0' :: rest => (unescape? rest).map ('~' :: ·)
  | '~' :: '1' :: rest => (unescape? rest).map ('/' :: ·)
  | '~' :: _ => none
  | c :: rest => (unescape? rest).map (c :: ·)

theorem unescape?_escapeToken (token : String) :
    unescape? (Path.escapeToken token) = some token.toList := by
  unfold Path.escapeToken
  induction token.toList with
  | nil => rfl
  | cons c cs ih =>
    rw [List.flatMap_cons]
    by_cases h : c = '~'
    · subst h
      simp [unescape?, ih]
    by_cases h' : c = '/'
    · subst h'
      simp [unescape?, ih]
    · simp [h, h', unescape?, ih]

/-- The tokens of a pointer, which is empty or starts with a slash. -/
def tokens? (text : List Char) : Option (List String) :=
  match Text.split '/' text with
  | [] :: parts => parts.mapM fun part => (unescape? part).map String.ofList
  | _ => none

/-- What a token asks of an array. -/
inductive Place where
  | pastEnd
  | index (i : Nat)
  | notAnIndex
  | unread (flaw : Text.Integer.Flaw)

/-- A token is an index if it starts with a zero or is a number without one, with a line
feed allowed at its end; the number itself is read by more generous rules. -/
def place (token : String) : Place :=
  let cs := token.toList
  let isIndex := match cs with
    | '0' :: _ => true
    | c :: rest =>
      let digits := rest.dropWhile Char.isDigit
      c.isDigit && (digits.isEmpty || digits == ['\n'])
    | [] => false
  if cs = ['-'] then .pastEnd
  else if !isIndex then .notAnIndex
  else
    match Text.integer cs with
    | .ok (.ofNat i) => .index i
    | .ok (.negSucc _) => .notAnIndex
    | .error flaw => .unread flaw

/-- What is past the end of a sequence: a value that says so and leads nowhere. -/
def endOf (sequence : Json) : Node :=
  ⟨.str ("EndOfList(" ++ String.ofList sequence.displayChars ++ ")"), none⟩

/-- Where a step of a pointer leads: to a place, nowhere, or past the end, where no
further step is possible. A number may also be one that cannot be read. -/
inductive Step where
  | found (node : Node)
  | last (node : Node)
  | missing
  | unread (flaw : Text.Integer.Flaw)

/-- One step from a node. The characters of a string can be reached like the items of
an array, and stand nowhere. -/
def step (node : Node) (token : String) : Step :=
  match node.json with
  | .obj _ =>
    match node.member? token with
    | some child => .found child
    | none => .missing
  | .arr items =>
    match place token with
    | .pastEnd => .last (endOf node.json)
    | .index i =>
      match items[i]? with
      | some item => .found (node.below (.index i) item)
      | none => .missing
    | .notAnIndex => .missing
    | .unread flaw => .unread flaw
  | .str s =>
    match place token with
    | .pastEnd => .last (endOf node.json)
    | .index i =>
      match s.toList[i]? with
      | some c => .found ⟨.str (String.singleton c), none⟩
      | none => .missing
    | .notAnIndex => .missing
    | .unread flaw => .unread flaw
  | _ => .missing

end Pointer

/-- A token that looks like an index and is not read as a number. -/
structure BadIndex where
  token : String
  flaw : Text.Integer.Flaw
deriving DecidableEq

/-- The node at the end of a walk, if there is one. -/
def Node.walk? : Node → List String → Except BadIndex (Option Node)
  | node, [] => .ok (some node)
  | node, token :: rest =>
    match Pointer.step node token with
    | .found child => child.walk? rest
    | .last child => .ok (if rest.isEmpty then some child else none)
    | .missing => .ok none
    | .unread flaw => .error ⟨token, flaw⟩

def Node.isNull (node : Node) : Bool :=
  match node.json with
  | .null => true
  | _ => false

/-- The name that a pointer spells out. -/
def Pointer.definitionName? : List String → Option String
  | ["definitions", name] => some name
  | _ => none

/-- The names that a reference is looked up by in a table. -/
def namesSought (ref : Json) : List String :=
  match ref with
  | .str name =>
    match name.toList with
    | '#' :: fragment =>
      let tokens := Pointer.tokens? (Text.percentDecode [] fragment)
      name :: (tokens.bind Pointer.definitionName?).toList
    | _ => [name]
  | _ => []

theorem mem_namesSought (name : String) : name ∈ namesSought (.str name) := by
  unfold namesSought
  dsimp only
  split <;> exact List.mem_cons_self

/-- The schema that a reference names: a name of the table, a fragment that spells out
such a name, or a fragment that leads to a node of the root. -/
def lookUp? (ref : Json) (table : Definitions) (root : Option Node) :
    Except BadIndex (Option Node) :=
  match ref with
  | .str name =>
    match table.lookup name, name.toList with
    | some node, _ => .ok (some node)
    | none, '#' :: fragment =>
      match Pointer.tokens? (Text.percentDecode [] fragment) with
      | none => .ok none
      | some tokens =>
        match ((Pointer.definitionName? tokens).bind fun name => table.lookup name), root with
        | some node, _ => .ok (some node)
        | none, some root => root.walk? tokens
        | none, none => .ok none
    | none, _ => .ok none
  | _ => .ok none

/-- The schema that a reference resolves to; null resolves nothing. -/
def resolve? (ref : Json) (table : Definitions) (root : Option Node) :
    Except BadIndex (Option Node) :=
  (lookUp? ref table root).map fun found => found.filter (!·.isNull)

end JsonSchema
