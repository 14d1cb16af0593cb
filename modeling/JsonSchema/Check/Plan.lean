import JsonSchema.Check.Basic

/-! What the check of one node asks for, laid out before anything below the node is
looked at: violations, other nodes to check and branches to try out, in the order in which
they are gone through. -/
namespace JsonSchema

inductive Plan where
  | clean
  | fault (fault : Fault)
  | report (schema : Node) (value : Json) (path : Path) (finding : Finding)
  | both (first second : Plan)
  | enter (schema : Node) (value : Json) (path : Path)
  /-- A reference leads on to its target, at the same place. -/
  | follow (link : Link) (value : Json)
  /-- A branch that is tried out; what comes next depends on whether it finds nothing. -/
  | probe (branch : Plan) (next : Bool → Plan)

namespace Plan

/-- Goes through a plan. What is found in a branch that is tried out is discarded. -/
def run (guard : Guard) (descend : Descent) (scope : Scope) : Plan → Check (List Violation)
  | .clean => return []
  | .fault f => throw f
  | .report schema value path finding => scope.report schema value path finding
  | .both first second => do
    let here ← first.run guard descend scope
    return here ++ (← second.run guard descend scope)
  | .enter schema value path => descend scope schema value path
  | .follow link value => do
    descend (← guard.follow scope link) link.target value link.path
  | .probe branch next => do
    let found ← branch.run guard descend scope.trial
    (next found.isEmpty).run guard descend scope

def all : List Plan → Plan
  | [] => .clean
  | plan :: rest => .both plan (all rest)

/-- Branches are tried until one finds nothing; without such a branch it is otherwise. -/
def firstClean (otherwise : Plan) : List Plan → Plan
  | [] => otherwise
  | plan :: rest => .probe plan fun passes => if passes then .clean else firstClean otherwise rest

/-- All branches are tried; it goes on with how many of them find nothing. -/
def countClean (next : Nat → Plan) (count : Nat) : List Plan → Plan
  | [] => next count
  | plan :: rest =>
    .probe plan fun passes => countClean next (if passes then count + 1 else count) rest

def ofVerdict (schema : Node) (value : Json) (path : Path) : Verdict → Plan
  | .ok (some finding) => .report schema value path finding
  | .ok none => .clean
  | .error f => .fault f

/-- What the constraints find, in order. -/
def settle (schema : Node) (value : Json) (path : Path) (verdicts : List Verdict) : Plan :=
  all (verdicts.map (ofVerdict schema value path))

end Plan

end JsonSchema
