import JsonSchema.Pattern.Term

/-! Alternatives in their simplest form: what all of them begin with comes first, and
alternatives of single characters are one set. -/
namespace JsonSchema.Pattern.Term

/-- The leaf that every sequence begins with. -/
def commonFirst? : List (List Term) → Option Leaf
  | [] => none
  | first :: rest => do
    let shared ← (← first.head?).leaf?
    if rest.all fun terms => (terms.head?.bind leaf?) = some shared then some shared else none

/-- Moves what all sequences begin with to the front, at most so many times. -/
def factor : Nat → List (List Term) → List Term × List (List Term)
  | 0, items => ([], items)
  | fuel + 1, items =>
    match commonFirst? items with
    | none => ([], items)
    | some first =>
      let (shared, rest) := factor fuel (items.map List.tail)
      (.leaf first :: shared, rest)

/-- The members of the set that a sequence of one character could be written as. -/
def asMembers? : List Term → Option (List Member)
  | [.leaf single] => single.asMembers?
  | _ => none

/-- The members of the set that sequences of one character each stand for. -/
def asSet? (items : List (List Term)) : Option (List Member) :=
  (items.mapM asMembers?).map List.flatten

/-- The sequence that alternatives amount to. A single one stands for itself. -/
def alternatives (items : List (List Term)) : List Term :=
  match items with
  | [terms] => terms
  | items =>
    let (shared, rest) := factor ((items.map List.length).foldl max 0) items
    match asSet? rest with
    | some members => shared ++ [.leaf (.set members.eraseDups false)]
    | none => shared ++ [.alt rest]

end JsonSchema.Pattern.Term
