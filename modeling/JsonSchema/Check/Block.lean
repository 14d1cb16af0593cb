import JsonSchema.Check.Basic

/-! Blocks of a check: definitions in force, a branch being tried out, a reference being
followed. A block changes the scope when it is entered and changes it back when it is left. -/
namespace JsonSchema

inductive Block where
  | definitions (extra : Definitions)
  | trial
  | reference (link : Link)

namespace Block

/-- A reference that is being followed already, to the same node at the same place, is
refused. -/
def enter (scope : Scope) : Block → Except Fault Scope
  | .definitions extra => .ok (scope.withDefinitions extra)
  | .trial => .ok scope.trial
  | .reference link => scope.follow link

/-- Definitions give way to the options that were in force before; a trial and a reference
are taken back by what they added. -/
def leave (before : Options) (scope : Scope) : Block → Scope
  | .definitions _ => { scope with options := before }
  | .trial => { scope with trials := scope.trials - 1 }
  | .reference _ => { scope with chain := scope.chain.dropLast }

/-- What a block makes of a scope if it is not refused. -/
def onto (scope : Scope) : Block → Scope
  | .definitions extra => scope.withDefinitions extra
  | .trial => scope.trial
  | .reference link => { scope with chain := scope.chain ++ [link] }

theorem onto_of_enter {scope inner : Scope} {block : Block} (h : block.enter scope = .ok inner) :
    inner = block.onto scope := by
  cases block with
  | definitions extra => exact (Except.ok.inj h).symm
  | trial => exact (Except.ok.inj h).symm
  | reference link =>
    change scope.follow link = _ at h
    unfold Scope.follow at h
    split at h <;> cases h
    rfl

/-- Leaving a block undoes what entering it did. -/
@[simp] theorem leave_onto (scope : Scope) (block : Block) :
    block.leave scope.options (block.onto scope) = scope := by
  cases block with
  | definitions extra => rfl
  | trial => rfl
  | reference link => rw [onto, leave, List.dropLast_concat]

def link? : Block → Option Link
  | .reference link => some link
  | _ => none

def definitions? : Block → Option Definitions
  | .definitions extra => some extra
  | _ => none

end Block

end JsonSchema
