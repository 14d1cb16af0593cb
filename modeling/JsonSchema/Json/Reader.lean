import JsonSchema.Json.Basic
import JsonSchema.Number.Digits
import JsonSchema.Text.Hex

/-! Reading a value from its text. White space is space, tab, line feed and carriage
return; control characters stand in a string only as escapes; a key that is repeated
keeps its first place and its last value. -/
namespace JsonSchema.Json

/-- Why a text is not read. -/
inductive TextFlaw where
  | malformed
  /-- An integer has more digits than are read. -/
  | tooManyDigits (count : Nat)
deriving DecidableEq

namespace Reader

abbrev Read := Except TextFlaw

/-- What has to come next in a text, with the rest. -/
def expected {α : Type} (found : Option (α × List Char)) : Read (α × List Char) :=
  match found with
  | some found => .ok found
  | none => .error .malformed

def isBlank (c : Char) : Bool :=
  c = ' ' || c = '\t' || c = '\n' || c = '\r'

def skipBlank (cs : List Char) : List Char :=
  cs.dropWhile isBlank

def hex4? (a b c d : Char) : Option Nat :=
  Text.hexValue? [a, b, c, d]

def shortEscape? : Char → Option Char
  | '"' => some '"'
  | '\\' => some '\\'
  | '/' => some '/'
  | 'b' => some '\x08'
  | 'f' => some '\x0c'
  | 'n' => some '\n'
  | 'r' => some '\r'
  | 't' => some '\t'
  | _ => none

/-- The code units up to the closing quote: a character as itself, an escape of four
digits as the number they write. -/
def units? : List Char → Option (List Nat × List Char)
  | [] => none
  | '"' :: rest => some ([], rest)
  | '\\' :: 'u' :: a :: b :: c :: d :: rest => do
    let unit ← hex4? a b c d
    let (units, rest) ← units? rest
    return (unit :: units, rest)
  | '\\' :: e :: rest => do
    let c ← shortEscape? e
    let (units, rest) ← units? rest
    return (c.toNat :: units, rest)
  | c :: rest =>
    if c.toNat < 0x20 ∨ c = '\\' then none
    else (units? rest).map fun (units, rest) => (c.toNat :: units, rest)

/-- A high and a low surrogate in a row are one character; one alone stands for none
and is replaced. -/
def joinUnits : List Nat → List Char
  | [] => []
  | [u] => [if u.isValidChar then Char.ofNat u else '\uFFFD']
  | u :: v :: rest =>
    if 0xD800 ≤ u ∧ u < 0xDC00 ∧ 0xDC00 ≤ v ∧ v < 0xE000 then
      Char.ofNat (0x10000 + (u - 0xD800) * 0x400 + (v - 0xDC00)) :: joinUnits rest
    else (if u.isValidChar then Char.ofNat u else '\uFFFD') :: joinUnits (v :: rest)

def string? (cs : List Char) : Option (String × List Char) :=
  (units? cs).map fun (units, rest) => (String.ofList (joinUnits units), rest)

def natOfDigits (digits : List Char) : Nat :=
  digits.foldl (fun n c => n * 10 + (c.toNat - '0'.toNat)) 0

def isDigit (c : Char) : Bool :=
  '0' ≤ c && c ≤ '9'

/-- The whole part: a zero alone or digits that do not start with one. -/
def whole? : List Char → Option (List Char × List Char)
  | '0' :: rest => some (['0'], rest)
  | cs =>
    let digits := cs.takeWhile isDigit
    if digits.isEmpty then none else some (digits, cs.dropWhile isDigit)

/-- The digits after the point, if there is one with digits after it. -/
def fraction : List Char → List Char × List Char
  | '.' :: rest =>
    let digits := rest.takeWhile isDigit
    if digits.isEmpty then ([], '.' :: rest) else (digits, rest.dropWhile isDigit)
  | cs => ([], cs)

def exponent? : List Char → Option (Int × List Char)
  | e :: rest =>
    if e = 'e' ∨ e = 'E' then
      let (negative, unsigned) := match rest with
        | '-' :: r => (true, r)
        | '+' :: r => (false, r)
        | r => (false, r)
      let digits := unsigned.takeWhile isDigit
      if digits.isEmpty then none
      else
        let n : Int := natOfDigits digits
        some (if negative then -n else n, unsigned.dropWhile isDigit)
    else none
  | [] => none

/-- A point or an exponent makes a number floating. -/
def unsigned (negative : Bool) (cs : List Char) : Read (Json × List Char) := do
  let (whole, rest) ← expected (whole? cs)
  let (fraction, rest) := fraction rest
  let digits := natOfDigits (whole ++ fraction)
  let places : Int := fraction.length
  match exponent? rest with
  | some (e, rest) => return (.float (.ofDecimal negative digits (e - places)), rest)
  | none =>
    if !fraction.isEmpty then return (.float (.ofDecimal negative digits (-places)), rest)
    else if digitLimit < whole.length then throw (.tooManyDigits whole.length)
    else return (.int (if negative then -digits else digits), rest)

def word (word : List Char) (value : Json) (cs : List Char) : Read (Json × List Char) :=
  if word.isPrefixOf cs then .ok (value, cs.drop word.length) else .error .malformed

def scalar (cs : List Char) : Read (Json × List Char) :=
  match cs with
  | '"' :: rest => expected ((string? rest).map fun (s, rest) => (.str s, rest))
  | 'n' :: _ => word "null".toList .null cs
  | 't' :: _ => word "true".toList (.bool true) cs
  | 'f' :: _ => word "false".toList (.bool false) cs
  | 'N' :: _ => word "NaN".toList (.float .nan) cs
  | 'I' :: _ => word "Infinity".toList (.float (.infinity false)) cs
  | '-' :: 'I' :: _ => word "-Infinity".toList (.float (.infinity true)) cs
  | '-' :: rest => unsigned true rest
  | _ => unsigned false cs

mutual

/-- A value at the head of the text; every level of nesting takes fuel, and so does
every element and member. -/
def value : Nat → List Char → Read (Json × List Char)
  | 0, _ => .error .malformed
  | fuel + 1, '[' :: rest =>
    match skipBlank rest with
    | ']' :: rest => .ok (.arr [], rest)
    | rest => (items fuel rest).map fun (items, rest) => (.arr items, rest)
  | fuel + 1, '\x7b' :: rest =>
    match skipBlank rest with
    | '\x7d' :: rest => .ok (.obj [], rest)
    | rest => (members fuel [] rest).map fun (members, rest) => (.obj members, rest)
  | _ + 1, cs => scalar cs

def items : Nat → List Char → Read (List Json × List Char)
  | 0, _ => .error .malformed
  | fuel + 1, cs => do
    let (item, rest) ← value fuel cs
    match skipBlank rest with
    | ',' :: rest =>
      let (items, rest) ← items fuel (skipBlank rest)
      return (item :: items, rest)
    | ']' :: rest => return ([item], rest)
    | _ => throw .malformed

def members : Nat → Members → List Char → Read (Members × List Char)
  | fuel + 1, found, '"' :: rest => do
    let (name, rest) ← expected (string? rest)
    match skipBlank rest with
    | ':' :: rest =>
      let (value, rest) ← value fuel (skipBlank rest)
      let found := Members.put name value found
      match skipBlank rest with
      | ',' :: rest => members fuel found (skipBlank rest)
      | '\x7d' :: rest => return (found, rest)
      | _ => throw .malformed
    | _ => throw .malformed
  | _, _, _ => .error .malformed

end

end Reader

/-- The value that a whole text writes. Each step of the reader takes at least one
character, so twice the length is fuel enough. -/
def ofText (text : String) : Except TextFlaw Json := do
  let cs := text.toList
  let (value, rest) ← Reader.value (2 * cs.length + 2) (Reader.skipBlank cs)
  if (Reader.skipBlank rest).isEmpty then return value else throw .malformed

end JsonSchema.Json
