import JsonSchema.Check.InPlace
import JsonSchema.Validate

/-! A session checks values step by step in one scope, which is changed in place. Blocks
are entered and left between the checks, the one that was entered last first. -/
namespace JsonSchema

/-- A block that has been entered, with the options that were in force before. -/
structure Entered where
  block : Block
  before : Options

/-- The blocks that are entered, innermost first. -/
structure Session where
  scope : Scope
  entered : List Entered

namespace Session

def start (options : Options) (root : Node) : Session :=
  ⟨.start options root, []⟩

def blocks (session : Session) : List Block :=
  session.entered.map (·.block)

/-- What can be asked of a session. -/
inductive Request where
  | enter (block : Block)
  | leave
  | resolve (reference : Json)
  | violate (path : Path) (kind : Kind) (details : Members) (template : Option String)
  | descend (schema : Node) (value : Json) (path : Path)

inductive Reply where
  | done
  | target (node : Option Node)
  | violations (violations : List Violation)

/-- A violation of the caller's own, told to the hook like any other. The template is
given beside the details, so none of them may have its name. -/
def violate (path : Path) (kind : Kind) (details : Members) (template : Option String)
    (scope : Scope) : Check (List Violation) := do
  if Members.has details "template" then throw .unusableDetail
  let violation ← (Violation.make path kind details template).mapError Fault.template
  scope.notify (violation.notice .null .null)
  return [violation]

/-- Enough steps to check a value against a schema in some scope. -/
def enoughIn (scope : Scope) (schema : Node) (value : Json) : Nat :=
  budget (scope.root.json.size + schema.json.size + scope.options.size) value.depth

/-- Does an action in the scope of a session, and keeps the scope that it leaves behind. -/
def act {α : Type} (session : Session) (heard : List Notice) (action : Action α)
    (reply : α → Reply) : Except Fault Reply × Session × List Notice :=
  let (outcome, after) := action.on ⟨session.scope, heard⟩
  (outcome.map reply, { session with scope := after.scope }, after.heard)

/-- One step of a session: what it answers, the session after it and the notices after it. -/
def step (session : Session) (heard : List Notice) :
    Request → Except Fault Reply × Session × List Notice
  | .enter block =>
    match block.enter session.scope with
    | .ok scope => (.ok .done, ⟨scope, ⟨block, session.scope.options⟩ :: session.entered⟩, heard)
    | .error f => (.error f, session, heard)
  | .leave =>
    match session.entered with
    | [] => (.ok .done, session, heard)
    | last :: rest => (.ok .done, ⟨last.block.leave last.before session.scope, rest⟩, heard)
  | .resolve reference =>
    session.act heard (.ofCheck fun scope => liftM (scope.resolve reference)) .target
  | .violate path kind details template =>
    session.act heard (.ofCheck (violate path kind details template)) .violations
  | .descend schema value path =>
    session.act heard
      (Check.descendInPlace (enoughIn session.scope schema value) schema value path) .violations

/-- All steps in turn, also after one that ends in a fault. -/
def run (session : Session) (heard : List Notice) :
    List Request → List (Except Fault Reply) × Session × List Notice
  | [] => ([], session, heard)
  | request :: rest =>
    let (reply, session, heard) := session.step heard request
    let (replies, session, heard) := session.run heard rest
    (reply :: replies, session, heard)

end Session

end JsonSchema
