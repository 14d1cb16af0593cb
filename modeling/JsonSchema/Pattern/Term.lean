import JsonSchema.Pattern.Flag
import JsonSchema.Pattern.Width

/-! The parts of a pattern as they are written, before flags give them their meaning. -/
namespace JsonSchema.Pattern

/-- Signs for places in the text. -/
inductive Mark where
  | caret
  | dollar
  | textStart
  | textEnd
  | boundary (negated : Bool)
deriving DecidableEq

/-- A part that holds no other part. A reference to a group knows the width of the
group. -/
inductive Leaf where
  | point (n : Nat) (negated : Bool)
  | any
  | set (members : List Member) (negated : Bool)
  | mark (mark : Mark)
  | back (number : Nat) (width : Width)
deriving DecidableEq

namespace Leaf

def width : Leaf → Width
  | .mark _ => .exactly 0
  | .back _ width => width
  | _ => .exactly 1

/-- The members of the set that a leaf is, or could be written as. -/
def asMembers? : Leaf → Option (List Member)
  | .point n false => some [.point n]
  | .set members false => some members
  | _ => none

end Leaf

inductive Greed where
  | greedy
  | lazy
  | possessive
deriving DecidableEq

/-- A part of a pattern. Sequences are lists of parts, and `alt` holds sequences. A group
without a number is there for its flags. -/
inductive Term where
  | leaf (leaf : Leaf)
  | group (number : Option Nat) (added removed : Flags) (body : List Term)
  | atomic (body : List Term)
  | look (behind negated : Bool) (body : List Term)
  | alt (items : List (List Term))
  | loop (greed : Greed) (low : Nat) (high : Option Nat) (body : List Term)
  | cond (number : Nat) (met unmet : List Term)

namespace Term

def leaf? : Term → Option Leaf
  | .leaf a => some a
  | _ => none

/-- The parts inside a group that neither captures nor changes flags. -/
def plainGroup? : Term → Option (List Term)
  | .group none [] [] body => some body
  | _ => none

mutual

def width : Term → Width
  | .leaf a => a.width
  | .group _ _ _ body | .atomic body => widthAll body
  | .look .. => .exactly 0
  | .alt items => widthAny items
  | .loop _ low high body => (widthAll body).times low high
  | .cond _ met unmet => (widthAll met).either (widthAll unmet)

/-- The width of a sequence. Every sequence stays within the limit. -/
def widthAll (terms : List Term) : Width :=
  (widthSum terms).capped

def widthSum : List Term → Width
  | [] => .exactly 0
  | term :: rest => term.width.add (widthSum rest)

def widthAny : List (List Term) → Width
  | [] => .exactly 0
  | [terms] => widthAll terms
  | terms :: rest => (widthAll terms).either (widthAny rest)

end

/-- Groups that only hold a sequence together give way to it. -/
def unpack (terms : List Term) : List Term :=
  terms.flatMap fun term => term.plainGroup?.getD [term]

end Term

end JsonSchema.Pattern
