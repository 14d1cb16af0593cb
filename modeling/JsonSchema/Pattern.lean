import JsonSchema.Pattern.Matcher
import JsonSchema.Pattern.Opening
import JsonSchema.Pattern.Parser

/-! Patterns: what a pattern text means, and whether it is found in a text. -/
namespace JsonSchema

/-- An expression with what is known of how its matches begin. No shorter text than
`low` holds a match. -/
structure Pattern where
  expr : Pattern.Expr
  low : Nat
  opening : Pattern.Opening
deriving DecidableEq

namespace Pattern

/-- The pattern that a text writes. -/
def ofText? (text : String) : Except Flaw Pattern := do
  let (flags, terms) ← termsOf text
  let expr ← Term.exprAll flags terms
  if expr.looksWithin then return ⟨expr, (Term.widthAll terms).low, .ofTerms flags terms⟩
  else throw .lookBehindTooWide

/-- Whether a match may start at a place. -/
def mayStart (pattern : Pattern) (size : Nat) (p : Place) : Bool :=
  pattern.opening.left ≤ size - p.position
    && pattern.opening.guard.all (p.allows ·)

/-- What is remembered of a match at a place. -/
def matchAt (pattern : Pattern) (size : Nat) (p : Place) : Option Memory :=
  if pattern.mayStart size p then
    let tried := pattern.expr.run size false .done p (.start p)
    if tried.matched then some tried.memory else none
  else none

/-- What is remembered of the first match from a place on. -/
def searchFrom (pattern : Pattern) (size position : Nat) (before : List Char) :
    List Char → Option Memory
  | [] => pattern.matchAt size ⟨position, before, []⟩
  | c :: rest =>
    match pattern.matchAt size ⟨position, before, c :: rest⟩ with
    | some m => some m
    | none => pattern.searchFrom size (position + 1) (c :: before) rest

/-- Whether a pattern is found anywhere in a text. -/
def foundIn (pattern : Pattern) (text : String) : Except Flaw Bool :=
  let cs := text.toList
  if cs.length < pattern.low then .ok false
  else
    match pattern.searchFrom cs.length 0 [] cs with
    | some m => if Memory.hasCrossed m.marks.reverse then .error .crossedGroup else .ok true
    | none => .ok false

end Pattern

end JsonSchema
