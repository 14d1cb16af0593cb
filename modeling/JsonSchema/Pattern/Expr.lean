import JsonSchema.Pattern.Flaw
import JsonSchema.Pattern.Term

/-! Patterns as expressions: what the terms of a pattern mean once flags have been worked
into them. -/
namespace JsonSchema.Pattern

inductive Anchor where
  | textStart
  | lineStart
  | textEnd
  | lastLineEnd
  | lineEnd
  | boundary (ascii negated : Bool)
deriving DecidableEq

/-- An expression. A sequence ends in `empty` and alternatives end in `never`; `many` is
a loop over single characters, and looking ahead is looking behind by no width. -/
inductive Expr where
  | empty
  | never
  | one (test : CharTest)
  | seq (first second : Expr)
  | alt (first second : Expr)
  | group (number : Nat) (body : Expr)
  | many (greed : Greed) (low : Nat) (high : Option Nat) (test : CharTest)
  | loop (greed : Greed) (low : Nat) (high : Option Nat) (body : Expr)
  | atomic (body : Expr)
  | look (negated : Bool) (width : Nat) (body : Expr)
  | back (folding : Folding) (number : Nat)
  | cond (number : Nat) (met unmet : Expr)
  | anchor (place : Anchor)
deriving DecidableEq

namespace Mark

def anchor (scope : Flags) : Mark → Anchor
  | .caret => if scope.contains .multiline then .lineStart else .textStart
  | .dollar => if scope.contains .multiline then .lineEnd else .lastLineEnd
  | .textStart => .textStart
  | .textEnd => .textEnd
  | .boundary negated => .boundary scope.isAscii negated

end Mark

namespace Leaf

def expr (scope : Flags) : Leaf → Expr
  | .point n negated => .one (.ofPoint scope.folding scope.isAscii n negated)
  | .any => .one (if scope.contains .dotAll then .any else .notNewline)
  | .set members negated => .one (.ofMembers scope.folding scope.isAscii members negated)
  | .mark place => .anchor (place.anchor scope)
  | .back number _ => .back scope.folding number

end Leaf

namespace Expr

/-- The test of an expression that is one single character. -/
def single? : Expr → Option CharTest
  | .one test => some test
  | .seq first .empty => first.single?
  | _ => none

def repeated (greed : Greed) (low : Nat) (high : Option Nat) (body : Expr) : Expr :=
  match body.single? with
  | some test => .many greed low high test
  | none => .loop greed low high body

end Expr

namespace Term

mutual

/-- The expression of a term under flags. A look-behind needs one width, and templates
know no loops. -/
def expr (scope : Flags) : Term → Except Flaw Expr
  | .leaf a => .ok (a.expr scope)
  | .group number added removed body => do
    let body ← exprAll (scope.change added removed) body
    match number with
    | some number => return .group number body
    | none => return body
  | .atomic body => do return .atomic (← exprAll scope body)
  | .look behind negated body => do
    let inner ← exprAll scope body
    let width := widthAll body
    if !behind then return .look negated 0 inner
    else if width.isFixed then return .look negated width.low inner
    else throw .malformed
  | .alt items => exprAny scope items
  | .loop greed low high body => do
    if scope.contains .template then throw .malformed
    return .repeated greed low high (← exprAll scope body)
  | .cond number met unmet => do
    return .cond number (← exprAll scope met) (← exprAll scope unmet)

def exprAll (scope : Flags) : List Term → Except Flaw Expr
  | [] => .ok .empty
  | term :: rest => do return .seq (← term.expr scope) (← exprAll scope rest)

def exprAny (scope : Flags) : List (List Term) → Except Flaw Expr
  | [] => .ok .never
  | terms :: rest => do return .alt (← exprAll scope terms) (← exprAny scope rest)

end

end Term

namespace Expr

/-- The widest look-behind. -/
def lookBehindLimit : Nat := 2147483647

/-- Whether no look-behind is too wide. -/
def looksWithin : Expr → Bool
  | .look _ width body => width ≤ lookBehindLimit && body.looksWithin
  | .seq a b | .alt a b | .cond _ a b => a.looksWithin && b.looksWithin
  | .group _ a | .loop _ _ _ a | .atomic a => a.looksWithin
  | _ => true

end Expr

end JsonSchema.Pattern
