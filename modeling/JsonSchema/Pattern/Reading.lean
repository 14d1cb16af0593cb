import JsonSchema.Number.Digits
import JsonSchema.Pattern.Alternatives
import JsonSchema.Pattern.Flaw
import JsonSchema.Pattern.Token
import JsonSchema.Text.CharacterName
import JsonSchema.Text.Hex
import JsonSchema.Text.Identifier
import JsonSchema.Text.Integer

/-! Reading the smallest parts of a pattern: characters and their escapes, sets, numbers
and names. -/
namespace JsonSchema.Pattern

/-- What has been read so far and what is left. Inside a look-behind `horizon` is the
number of the first group that may not be referred to there. -/
structure Progress where
  rest : List Token
  flags : Flags
  opened : Nat
  closed : List (Nat × Width)
  names : List (String × Nat)
  horizon : Option Nat
  conditions : List Nat

abbrev Parse := StateT Progress (Except Flaw)

namespace Parser

def fail {α : Type} : Parse α :=
  throw .malformed

def peek : Parse (Option Token) := do
  match (← get).rest with
  | [] => return none
  | .broken :: _ => fail
  | token :: _ => return some token

def drop : Parse Unit :=
  modify fun p => { p with rest := p.rest.drop 1 }

def take : Parse (Option Token) := do
  let token ← peek
  drop
  return token

/-- Takes a character if it comes next. -/
def eat (c : Char) : Parse Bool := do
  if (← peek) = some (.plain c) then
    drop
    return true
  else
    return false

def expect (c : Char) : Parse Unit := do
  unless ← eat c do fail

/-- Up to `n` characters of a kind. -/
def takeUpTo (accepts : Char → Bool) : Nat → Parse (List Char)
  | 0 => return []
  | n + 1 => do
    match ← peek with
    | some (.plain c) =>
      if accepts c then
        drop
        return c :: (← takeUpTo accepts n)
      else return []
    | _ => return []

/-- The text up to a character, which is taken too; there must be some. -/
def takeUntil (stop : Char) : Parse (List Char) := do
  let rest := (← get).rest
  let taken := rest.takeWhile (· ≠ .plain stop)
  let cs := taken.flatMap Token.chars
  if taken.length = rest.length ∨ cs.isEmpty then fail
  modify fun p => { p with rest := rest.drop (taken.length + 1) }
  return cs

def isOctal (c : Char) : Bool :=
  '0' ≤ c && c ≤ '7'

def isHex (c : Char) : Bool :=
  (Text.hexDigit? c).isSome

def valueInBase (base : Nat) (digits : List Char) : Nat :=
  digits.foldl (fun n c => n * base + (Text.hexDigit? c).getD 0) 0

def hexPoint (width : Nat) : Parse Nat := do
  let digits ← takeUpTo isHex width
  if digits.length < width then fail
  let n := valueInBase 16 digits
  if 0x80000000 ≤ n then throw .codePointTooLarge
  if 0x110000 ≤ n then fail
  return n

/-- The code point that an escape stands for. A letter without a meaning of its own may
not be escaped. -/
def escapedPoint (c : Char) : Parse Nat := do
  match c with
  | 'a' => return 7
  | 'f' => return 12
  | 'n' => return 10
  | 'r' => return 13
  | 't' => return 9
  | 'v' => return 11
  | 'x' => hexPoint 2
  | 'u' => hexPoint 4
  | 'U' => hexPoint 8
  | 'N' =>
    expect '\x7b'
    match Text.characterNamed? (String.ofList (← takeUntil '\x7d')) with
    | some n => return n
    | none => fail
  | c => if c.isAlpha then fail else return c.toNat

def category? : Char → Option Member
  | 'd' => some (.category .digit false)
  | 'D' => some (.category .digit true)
  | 's' => some (.category .space false)
  | 'S' => some (.category .space true)
  | 'w' => some (.category .word false)
  | 'W' => some (.category .word true)
  | _ => none

/-- An octal escape reaches up to 0o377. -/
def octalPoint (digits : List Char) : Parse Nat := do
  let n := valueInBase 8 digits
  if 0o377 < n then fail
  return n

def setEscape (c : Char) : Parse Member := do
  match category? c with
  | some member => return member
  | none =>
    if c = 'b' then return .point 8
    else if isOctal c then
      return .point (← octalPoint (c :: (← takeUpTo isOctal 2)))
    else if c.isDigit then fail
    else return .point (← escapedPoint c)

def setMember : Token → Parse Member
  | .plain c => return .point c.toNat
  | .escaped c => setEscape c
  | .broken => fail

/-- The members of a set up to its closing bracket, which is a member itself when it
comes first; a hyphen makes a range unless it comes last. -/
def setMembers : Nat → List Member → Parse (List Member)
  | 0, _ => fail
  | fuel + 1, found => do
    match ← take with
    | none => fail
    | some token =>
      if token = .plain ']' ∧ found ≠ [] then return found.reverse
      let first ← setMember token
      if ← eat '-' then
        match ← take with
        | none => fail
        | some token =>
          if token = .plain ']' then
            return (.point '-'.toNat :: first :: found).reverse
          match first, ← setMember token with
          | .point low, .point high =>
            if high < low then fail
            setMembers fuel (.range low high :: found)
          | _, _ => fail
      else setMembers fuel (first :: found)

/-- A set of one single character is that character. -/
def set : Parse Leaf := do
  let negated ← eat '^'
  let members ← setMembers ((← get).rest.length + 1) []
  match members.eraseDups with
  | [.point n] => return .point n negated
  | members => return .set members negated

/-- A group can be referred to once it has been closed, and in a look-behind only if it
was opened before. -/
def checkHorizon (number : Nat) : Parse Unit := do
  let p ← get
  match p.horizon with
  | none => return ()
  | some horizon =>
    if (p.closed.lookup number).isNone ∨ horizon ≤ number then fail

def backReference (number : Nat) : Parse Leaf := do
  match (← get).closed.lookup number with
  | none => fail
  | some width =>
    checkHorizon number
    return .back number width

/-- Three octal digits write a character; fewer, or others, refer to a group. -/
def numberEscape (c : Char) : Parse Leaf := do
  match ← takeUpTo Char.isDigit 1 with
  | [d] =>
    if isOctal c && isOctal d then
      match ← takeUpTo isOctal 1 with
      | [e] => return .point (← octalPoint [c, d, e]) false
      | _ => backReference (valueInBase 10 [c, d])
    else backReference (valueInBase 10 [c, d])
  | _ => backReference (valueInBase 10 [c])

def markEscape? : Char → Option Mark
  | 'A' => some .textStart
  | 'Z' => some .textEnd
  | 'b' => some (.boundary false)
  | 'B' => some (.boundary true)
  | _ => none

def escape (c : Char) : Parse Leaf := do
  match markEscape? c, category? c with
  | some mark, _ => return .mark mark
  | none, some member => return .set [member] false
  | none, none =>
    if c = '0' then return .point (valueInBase 8 (← takeUpTo isOctal 2)) false
    else if c.isDigit then numberEscape c
    else return .point (← escapedPoint c) false

def repetition (digits : List Char) : Parse Nat := do
  if digitLimit < digits.length then throw (.tooManyDigits digits.length)
  let n := valueInBase 10 digits
  if countLimit ≤ n then throw .repetitionTooLarge
  return n

/-- The limits of a repetition in braces. Braces that do not hold one are taken as they
stand, and nothing is read. -/
def bracedLimits? : Parse (Option (Nat × Option Nat)) := do
  if (← peek) = some (.plain '\x7d') then return none
  let start := (← get).rest
  let low ← takeUpTo Char.isDigit start.length
  let high ← if ← eat ',' then takeUpTo Char.isDigit start.length else pure low
  if ← eat '\x7d' then
    let _ ← peek
    let least ← if low.isEmpty then pure 0 else repetition low
    if high.isEmpty then return some (least, none)
    let most ← repetition high
    if most < least then fail
    return some (least, some most)
  else
    modify fun p => { p with rest := start }
    return none

def limits? : Char → Parse (Option (Nat × Option Nat))
  | '?' => return some (0, some 1)
  | '*' => return some (0, none)
  | '+' => return some (1, none)
  | _ => bracedLimits?

def groupName (stop : Char) : Parse String := do
  let name ← takeUntil stop
  if Text.isIdentifier name then return String.ofList name else fail

def namedReference : Parse Leaf := do
  let name ← groupName ')'
  match (← get).names.lookup name with
  | some number => backReference number
  | none => fail

/-- Group numbers stay below this one. -/
def groupLimit : Nat := 1073741823

/-- The group that a condition asks about: one that has a name, or any number of a
group that may follow only later. -/
def conditionGroup : Parse Nat := do
  let name ← takeUntil ')'
  if Text.isIdentifier name then
    match (← get).names.lookup (String.ofList name) with
    | some number => return number
    | none => fail
  else
    match Text.integer name with
    | .ok (.ofNat number) =>
      if number = 0 ∨ groupLimit ≤ number then fail
      modify fun p => { p with conditions := number :: p.conditions }
      return number
    | _ => fail

def skipComment : Parse Unit := do
  let rest := (← get).rest
  let comment := rest.takeWhile (· ≠ .plain ')')
  if comment.length = rest.length then fail
  modify fun p => { p with rest := rest.drop (comment.length + 1) }

def skipLine : Parse Unit :=
  modify fun p =>
    { p with rest := p.rest.dropWhile fun token => token ≠ .plain '\n' ∧ token ≠ .broken }

def isLayout (c : Char) : Bool :=
  c = ' ' || ('\x09' ≤ c && c ≤ '\x0d')

end Parser

end JsonSchema.Pattern
