import JsonSchema.Json.Basic

/-! Writing a value as text: no spaces, members in their own order, and nothing but
printable ASCII. -/
namespace JsonSchema.Json

/-- Hexadecimal digits, padded with zeros. -/
def hexChars (width n : Nat) : List Char :=
  let digits := Nat.toDigits 16 n
  List.replicate (width - digits.length) '0' ++ digits

def unitEscape (unit : Nat) : List Char :=
  '\\' :: 'u' :: hexChars 4 unit

/-- A character as it stands in a string: as itself when it is printable ASCII other
than the quote and the backslash, by its short escape if it has one, else by the
numbers of its UTF-16 units. -/
def escapeChar (c : Char) : List Char :=
  match c with
  | '"' => ['\\', '"']
  | '\\' => ['\\', '\\']
  | '\n' => ['\\', 'n']
  | '\r' => ['\\', 'r']
  | '\t' => ['\\', 't']
  | '\x0c' => ['\\', 'f']
  | '\x08' => ['\\', 'b']
  | c =>
    let n := c.toNat
    if 0x20 ≤ n ∧ n < 0x7F then [c]
    else if n < 0x10000 then unitEscape n
    else unitEscape (0xD800 + (n - 0x10000) / 0x400) ++ unitEscape (0xDC00 + (n - 0x10000) % 0x400)

def quoted (s : String) : List Char :=
  '"' :: s.toList.flatMap escapeChar ++ ['"']

def floatSpelling : Double.Spelling := ⟨"NaN", "Infinity"⟩

mutual

def chars : Json → List Char
  | .null => ['n', 'u', 'l', 'l']
  | .bool true => ['t', 'r', 'u', 'e']
  | .bool false => ['f', 'a', 'l', 's', 'e']
  | .int n => integerChars n
  | .float x => (x.text floatSpelling).toList
  | .str s => quoted s
  | .arr items => '[' :: charsOfItems items ++ [']']
  | .obj members => '\x7b' :: charsOfMembers members ++ ['\x7d']

def charsOfItems : List Json → List Char
  | [] => []
  | [item] => item.chars
  | item :: rest => item.chars ++ ',' :: charsOfItems rest

def charsOfMembers : List (String × Json) → List Char
  | [] => []
  | [(name, value)] => quoted name ++ ':' :: value.chars
  | (name, value) :: rest => quoted name ++ ':' :: value.chars ++ ',' :: charsOfMembers rest

end

def text (value : Json) : String :=
  String.ofList value.chars

end JsonSchema.Json
