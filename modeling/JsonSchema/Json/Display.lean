import JsonSchema.Json.Basic
import JsonSchema.Json.Writer
import JsonSchema.Text.Printable

/-! The text of a value inside a message. A string stands there as it is; within an
array or an object it is quoted, by preference with single quotes, and only what cannot
be shown is escaped. -/
namespace JsonSchema.Json

def messageSpelling : Double.Spelling := ⟨"nan", "inf"⟩

def displayChar (quote c : Char) : List Char :=
  if c = quote ∨ c = '\\' then ['\\', c]
  else if c = '\n' then ['\\', 'n']
  else if c = '\r' then ['\\', 'r']
  else if c = '\t' then ['\\', 't']
  else if Text.isPrintable c then [c]
  else if c.toNat < 0x100 then '\\' :: 'x' :: hexChars 2 c.toNat
  else if c.toNat < 0x10000 then '\\' :: 'u' :: hexChars 4 c.toNat
  else '\\' :: 'U' :: hexChars 8 c.toNat

/-- Double quotes are used only for a string that holds single ones and no double ones. -/
def displayQuoted (s : String) : List Char :=
  let cs := s.toList
  let quote := if cs.contains '\'' && !cs.contains '"' then '"' else '\''
  quote :: cs.flatMap (displayChar quote) ++ [quote]

mutual

def displayChars : Json → List Char
  | .null => "None".toList
  | .bool true => "True".toList
  | .bool false => "False".toList
  | .int n => integerChars n
  | .float x => (x.text messageSpelling).toList
  | .str s => displayQuoted s
  | .arr items => '[' :: displayItems items ++ [']']
  | .obj members => '\x7b' :: displayMembers members ++ ['\x7d']

def displayItems : List Json → List Char
  | [] => []
  | [item] => item.displayChars
  | item :: rest => item.displayChars ++ ',' :: ' ' :: displayItems rest

def displayMembers : List (String × Json) → List Char
  | [] => []
  | [(name, value)] => displayQuoted name ++ ':' :: ' ' :: value.displayChars
  | (name, value) :: rest =>
    displayQuoted name ++ ':' :: ' ' :: value.displayChars ++ ',' :: ' ' :: displayMembers rest

end

def display : Json → String
  | .str s => s
  | value => String.ofList value.displayChars

end JsonSchema.Json
