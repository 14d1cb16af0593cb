import JsonSchema.Text.Blank
import JsonSchema.Text.Digit
import JsonSchema.Text.Word
import JsonSchema.Text.Case

/-! What a pattern asks of one character. Characters are compared as code points, so a
pattern may name code points that no text holds. -/
namespace JsonSchema.Pattern

/-- Which letters count as equal to their other case. -/
inductive Folding where
  | none
  | ascii
  | unicode
deriving DecidableEq

namespace Folding

def small : Folding → Nat → Nat
  | .none, n => n
  | .ascii, n => Text.asciiSmall n
  | .unicode, n => Text.small n

/-- The small letters that stand for the same letter as a given small one. -/
def relatives : Folding → Nat → List Nat
  | .unicode, n => Text.relatives n
  | _, n => [n]

def variants : Folding → Nat → List Nat
  | .none, n => [n]
  | .ascii, n => Text.asciiVariants n
  | .unicode, n => Text.variants n

def casedRanges : Folding → Text.Ranges
  | .none => []
  | .ascii => Text.asciiCasedRanges
  | .unicode => Text.casedRanges

/-- Whether case makes a difference for a code point. -/
def isCased (folding : Folding) (n : Nat) : Bool :=
  folding.casedRanges.covers n

end Folding

inductive Category where
  | digit
  | space
  | word
deriving DecidableEq

namespace Category

def holds : Category → Char → Bool
  | .digit, c => Text.isDigit c
  | .space, c => Text.isBlank c
  | .word, c => Text.isWord c

def holdsAscii : Category → Char → Bool
  | .digit, c => c.isDigit
  | .space, c => c = ' ' || ('\x09' ≤ c && c ≤ '\x0d')
  | .word, c => c.isAlphanum || c = '_'

end Category

/-- The last code point of the basic plane. Case is worked into a set for the code
points up to here; of those beyond only some of the variants are known to it. -/
def basicLast : Nat := 0xFFFF

inductive Member where
  | point (n : Nat)
  | range (first last : Nat)
  | category (kind : Category) (negated : Bool)
deriving DecidableEq

namespace Member

def holds (ascii : Bool) (member : Member) (c : Char) : Bool :=
  match member with
  | .point n => c.toNat = n
  | .range first last => first ≤ c.toNat && c.toNat ≤ last
  | .category kind negated => (if ascii then kind.holdsAscii c else kind.holds c) != negated

/-- Whether a member takes a character when case makes no difference. A point beyond the
basic plane is compared with the small form alone, and a range that reaches there takes
the small form and its capital. -/
def takes (folding : Folding) (ascii : Bool) (c : Char) (member : Member) : Bool :=
  let small := folding.small c.toNat
  match member with
  | .point n =>
    if basicLast < n then small = n else (folding.relatives (folding.small n)).contains small
  | .range first last =>
    (folding.variants c.toNat).any (fun n => first ≤ n && n ≤ last && n ≤ basicLast)
      || basicLast < last && [small, Text.capital small].any fun n => first ≤ n && n ≤ last
  | .category .. => member.holds ascii c

/-- Whether case may make a difference for a member. -/
def varies (folding : Folding) : Member → Bool
  | .point n => folding.isCased n
  | .range first last => basicLast < last || folding.casedRanges.meets first last
  | .category .. => false

/-- Whether a member makes a set ask for the small forms of characters. -/
def isFolded (folding : Folding) : Member → Bool
  | .point n => basicLast < n || folding.isCased n
  | member => member.varies folding

end Member

inductive CharTest where
  | any
  | notNewline
  | point (folding : Folding) (n : Nat) (negated : Bool)
  | set (folding : Folding) (ascii : Bool) (members : List Member) (negated : Bool)
deriving DecidableEq

namespace CharTest

def accepts : CharTest → Char → Bool
  | .any, _ => true
  | .notNewline, c => c ≠ '\n'
  | .point folding n negated, c => (folding.small c.toNat = folding.small n) != negated
  | .set .none ascii members negated, c => members.any (·.holds ascii c) != negated
  | .set folding ascii members negated, c => members.any (·.takes folding ascii c) != negated

/-- One character under a folding. A letter with relatives of its own is a set. -/
def ofPoint (folding : Folding) (ascii : Bool) (n : Nat) (negated : Bool) : CharTest :=
  if !folding.isCased n then .point .none n negated
  else if (folding.relatives (folding.small n)).length = 1 then .point folding n negated
  else .set folding ascii [.point n] negated

/-- A set under a folding, which is dropped when it makes no difference. -/
def ofMembers (folding : Folding) (ascii : Bool) (members : List Member) (negated : Bool) :
    CharTest :=
  if folding ≠ .none ∧ members.any (·.isFolded folding) then .set folding ascii members negated
  else .set .none ascii members negated

/-- The code point of a test for one single character. -/
def certain? : CharTest → Option Nat
  | .point .none n false => some n
  | _ => none

/-- Whether a test looks at a character as it stands, for one character or a set. -/
def isDirect : CharTest → Bool
  | .point .none _ false | .set .none .. => true
  | _ => false

/-- Whether a test is a set that asks for small forms. -/
def isFoldedSet : CharTest → Bool
  | .set folding .. => folding ≠ .none
  | _ => false

end CharTest

end JsonSchema.Pattern
