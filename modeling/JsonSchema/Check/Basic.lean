import JsonSchema.Options

/-! The setting of a check: the options and the root in force, the references being
followed, and the hook that hears of violations. Violations found while branches are
tried out are discarded and never reach the hook. -/
namespace JsonSchema

/-- A reference that is being followed, with the node it led to and the place of the
value. -/
structure Link where
  reference : String
  target : Node
  path : Path

namespace Link

def isSame (a b : Link) : Bool :=
  a.reference == b.reference && a.target.isSame b.target && a.path == b.path

end Link

structure Scope where
  options : Options
  root : Node
  trials : Nat
  chain : List Link

/-- A check hears the notices given so far and adds its own; they remain when it ends
in a fault. -/
abbrev Check := ExceptT Fault (StateM (List Notice))

/-- What is wrong with a value, at a place below it. -/
structure Finding where
  kind : Kind
  details : Members
  below : Path := []
  template : String := kind.template

/-- What a finding amounts to at the place where it is made. -/
def Finding.violation (finding : Finding) (path : Path) : Violation :=
  .of (path ++ finding.below) finding.kind finding.details finding.template

/-- The outcome of one constraint. -/
abbrev Verdict := Except Fault (Option Finding)

/-- Checks a value against a node at a path. -/
abbrev Descent := Scope → Node → Json → Path → Check (List Violation)

namespace Scope

def start (options : Options) (root : Node) : Scope :=
  ⟨options, root, 0, []⟩

def inTrial (scope : Scope) : Bool :=
  0 < scope.trials

def trial (scope : Scope) : Scope :=
  { scope with trials := scope.trials + 1 }

def withDefinitions (scope : Scope) (extra : Definitions) : Scope :=
  { scope with options := scope.options.withDefinitions extra }

/-- The names of a chain from its first link that is the same as a given one. -/
def loopNames (link : Link) (chain : List Link) : List String :=
  (chain.dropWhile (!·.isSame link)).map (·.reference)

/-- While a reference is being followed to a node at a place, it is not followed there
again, whatever definitions have come into force since. -/
def follow (scope : Scope) (link : Link) : Except Fault Scope :=
  if scope.chain.any (·.isSame link) then
    .error (.refused (.cycle (loopNames link scope.chain ++ [link.reference])) link.path.text)
  else .ok { scope with chain := scope.chain ++ [link] }

def resolve (scope : Scope) (ref : Json) : Except Fault (Option Node) :=
  (resolve? ref scope.options.definitions scope.root).mapError .index

/-- Tells the hook of a violation, unless a branch is being tried out. -/
def notify (scope : Scope) (notice : Notice) : Check Unit := do
  match scope.options.hook with
  | none => return ()
  | some hook =>
    if scope.inTrial then return ()
    let notices := (← get) ++ [notice]
    set notices
    match hook notices with
    | some message => throw (.stopped message)
    | none => return ()

def report (scope : Scope) (schema : Node) (value : Json) (path : Path) (finding : Finding) :
    Check (List Violation) := do
  let violation := finding.violation path
  scope.notify (violation.notice schema.json value)
  return [violation]

end Scope

/-- What a run does when a reference is followed, and when definitions come into force. -/
structure Guard where
  follow : Scope → Link → Except Fault Scope
  declare : Scope → Definitions → Scope

/-- No reference is followed again while its link is on the chain. -/
def Guard.chain : Guard :=
  ⟨Scope.follow, Scope.withDefinitions⟩

end JsonSchema
