import JsonSchema.Check.Block
import JsonSchema.Check.Node

/-! Checks that change the scope in place. Whatever a block changes is changed back when
the block ends, also if it ends in a fault. -/
namespace JsonSchema

/-- The scope as it stands, and the notices that the hook has heard. -/
structure Context where
  scope : Scope
  heard : List Notice

/-- What an action does to the context remains when it ends in a fault. -/
abbrev Action := ExceptT Fault (StateM Context)

namespace Action

/-- The outcome of an action and the context after it. -/
def on {α : Type} (action : Action α) (context : Context) : Except Fault α × Context :=
  action.run.run context

/-- A check in the scope as it stands. -/
def ofCheck {α : Type} (check : Scope → Check α) : Action α := do
  let context ← get
  let (outcome, heard) := (check context.scope).run.run context.heard
  set { context with heard }
  liftM outcome

/-- Enters a block for as long as an action takes. -/
def within {α : Type} (block : Block) (action : Action α) : Action α := do
  let before := (← get).scope
  let inner ← block.enter before
  modify fun context => { context with scope := inner }
  try action
  finally modify fun context =>
    { context with scope := block.leave before.options context.scope }

end Action

/-- How a plan is gone through: on its own, and in the trial of the branches before it.
There it goes on as long as it has branches itself, and leaves the rest for after the trial. -/
structure Course where
  whole : Action (List Violation)
  tried : Action (Action (List Violation))

namespace Course

/-- What is not tried out waits for the end of a trial. -/
def plain (action : Action (List Violation)) : Course :=
  ⟨action, return action⟩

/-- Branches that are tried out one after the other share one trial. -/
def trial (tried : Action (Action (List Violation))) : Course where
  whole := do
    let rest ← Action.within .trial tried
    rest
  tried := tried

end Course

namespace Plan

/-- Goes through a plan in place. -/
def course (descend : Node → Json → Path → Action (List Violation)) : Plan → Course
  | .clean => .plain (return [])
  | .fault f => .plain (throw f)
  | .report schema value path finding =>
    .plain (.ofCheck (·.report schema value path finding))
  | .both first second => .plain do
    let here ← (first.course descend).whole
    return here ++ (← (second.course descend).whole)
  | .enter schema value path => .plain (descend schema value path)
  | .follow link value =>
    .plain (.within (.reference link) (descend link.target value link.path))
  | .probe branch next => .trial do
    let found ← (branch.course descend).whole
    ((next found.isEmpty).course descend).tried

end Plan

/-- Checks a value within a budget of steps, with the definitions of the node in force for
as long as that takes. -/
def Check.descendInPlace : Nat → Node → Json → Path → Action (List Violation)
  | 0, _, _, _ => throw .exhausted
  | budget + 1, schema, value, path => do
    let maxDepth := (← get).scope.options.maxDepth
    match Options.exceeds path.length maxDepth with
    | none => throw .unusableOption
    | some true => throw (.refused (.depth maxDepth) path.text)
    | some false =>
      Action.within (.definitions (declared schema)) do
        let scope := (← get).scope
        ((node scope.options scope.root schema value path).course (descendInPlace budget)).whole

end JsonSchema
