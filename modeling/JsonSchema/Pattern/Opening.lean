import JsonSchema.Pattern.Term

/-! How a match begins. A pattern that begins with a certain character, or with a set for
which case makes no difference, is tried only where that is found. -/
namespace JsonSchema.Pattern

/-- What the first characters of a sequence say: they start with a certain one, they do
not, or nothing was read at all. -/
inductive Lead where
  | certain
  | uncertain
  | nothing
deriving DecidableEq

namespace Term

mutual

def lead (scope : Flags) : Term → Lead
  | .leaf (.point n false) => if scope.folding.isCased n then .uncertain else .certain
  | .group _ added removed body => leadAll (scope.change added removed) body
  | _ => .uncertain

def leadAll (scope : Flags) : List Term → Lead
  | [] => .nothing
  | term :: rest =>
    match term.lead scope with
    | .nothing => leadAll scope rest
    | lead => lead

end

/-- The single character that a sequence begins with, if case makes no difference for
it. -/
def firstPoint? (scope : Flags) : List Term → Option Member
  | .leaf (.point n false) :: _ => if scope.folding.isCased n then none else some (.point n)
  | _ => none

mutual

/-- The set that a term begins with, and whether it is negated. -/
def leadingSet? (scope : Flags) : Term → Option (List Member × Bool)
  | .leaf (.set members negated) =>
    if scope.folding ≠ .none ∧ members.any (·.varies scope.folding) then none
    else some (members, negated)
  | .group _ added removed body => leadingSetAll? (scope.change added removed) body
  | .alt items => (items.mapM (firstPoint? scope)).map (·, false)
  | _ => none

def leadingSetAll? (scope : Flags) : List Term → Option (List Member × Bool)
  | [] => none
  | term :: _ => term.leadingSet? scope

end

end Term

/-- Where a match may start: where so many characters are left, and where the next
character passes a test. -/
structure Opening where
  left : Nat
  guard : Option CharTest
deriving DecidableEq

namespace Opening

/-- The opening of a sequence under the flags of the whole pattern. A guard takes its
alphabet from them too, whatever the part that it comes from says. What may take no
character at all may start anywhere. -/
def ofTerms (flags : Flags) (terms : List Term) : Opening :=
  let low := (Term.widthAll terms).low
  if low = 0 ∨ Term.leadAll flags terms = .certain then ⟨0, none⟩
  else
    match Term.leadingSetAll? flags terms with
    | some (members, negated) => ⟨0, some (.set .none flags.isAscii members negated)⟩
    | none => ⟨low - 1, none⟩

end Opening

end JsonSchema.Pattern
