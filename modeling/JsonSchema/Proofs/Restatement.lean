import JsonSchema.Proofs.Copy
import JsonSchema.Proofs.Relocation
import JsonSchema.Proofs.Trace

/-! Schemas that say the same in other words. The checks against them come to one answer and tell
of the same violations, each under the schema that it broke. -/
namespace JsonSchema

namespace View

/-- A hook that, after some notices, tells no others apart that look alike. -/
def BoundsAfter (view : View) (heard : List Notice) (hook : Option Hook) : Prop :=
  ∀ listens, hook = some listens → ∀ notices notices' : List Notice,
    List.Forall₂ view.notices notices notices' →
      listens (heard ++ notices) = listens (heard ++ notices')

/-- A hook that tells no notices apart stops at neither of two lists or at both. By induction on
the lists, with what has been told of both before. -/
theorem hearing_fst_eq {view : View} {heard : List Notice} {hook : Option Hook}
    (bounds : view.BoundsAfter heard hook) {told told' : List Notice}
    (like : List.Forall₂ view.notices told told') (answer : Answer) :
    (hearing hook answer heard told).1 = (hearing hook answer heard told').1 := by
  cases hook with
  | none => rw [hearing_none, hearing_none]
  | some listens =>
    suffices h : ∀ before before', List.Forall₂ view.notices before before' →
        (hearing (some listens) answer (heard ++ before) told).1 =
          (hearing (some listens) answer (heard ++ before') told').1 by
      simpa using h [] [] .nil
    induction like with
    | nil => exact fun _ _ _ => rfl
    | @cons notice notice' _ _ hnotice _ ih =>
      intro before before' hbefore
      have hnext := List.rel_append hbefore (List.Forall₂.cons hnotice .nil)
      rw [hearing_cons, hearing_cons, List.append_assoc, List.append_assoc,
        bounds listens rfl _ _ hnext]
      cases listens (heard ++ (before' ++ [notice'])) with
      | some message => rfl
      | none => exact ih _ _ hnext

theorem bounds_recording (view : View) : view.Bounds (some .recording) := by
  rintro _ ⟨⟩ _ _ _
  rfl

theorem exceptSchemas_refl (notices : List Notice) :
    List.Forall₂ exceptSchemas.notices notices notices :=
  List.forall₂_same.mpr fun _ _ => rfl

theorem exceptSchemas_trans {a b c : List Notice} (hab : List.Forall₂ exceptSchemas.notices a b)
    (hbc : List.Forall₂ exceptSchemas.notices b c) : List.Forall₂ exceptSchemas.notices a c := by
  induction hab generalizing c with
  | nil => exact hbc
  | @cons notice notice' _ _ hnotice _ ih =>
    cases hbc with
    | @cons _ notice'' _ _ hnotice' hrest =>
      refine .cons ?_ (ih hrest)
      have hnext := congrArg ({ · with schema := notice.schema }) hnotice'
      exact hnext.trans hnotice

end View

/-- What goes in step with something that goes in step with a third goes in step with that. -/
theorem Check.Parallels.trans {a b c : Check (List Violation)}
    (hab : Check.Parallels .exceptSchemas a b) (hbc : Check.Parallels .exceptSchemas b c) :
    Check.Parallels .exceptSchemas a c := by
  intro heard heard' like ends
  have hfirst := hab heard heard' like ends
  have hanswer : (a.on heard).1 = (b.on heard').1 := hfirst.answer.eq
  have hsecond := hbc heard' heard' (View.exceptSchemas_refl heard') (hanswer ▸ ends)
  exact ⟨hanswer ▸ hsecond.answer, View.exceptSchemas_trans hfirst.heard hsecond.heard⟩

/-- The same scope, with somebody who listens and does not stop anything. -/
def Scope.recorded (scope : Scope) : Scope :=
  scope.listening scope.trials (some .recording)

namespace Session

/-- What it means for the check against one schema to say the same as that against another one:
both come to one answer, within their steps, and tell the hook the same violations of the same
values at the same places; so both have one outcome, unless the hook looks at the schemas. -/
structure Restates (session : Session) (schema schema' : Node) (value : Json) (path : Path)
    (heard : List Notice) : Prop where
  told : ∃ (answer : Answer) (told told' : List Notice), answer ≠ .error .exhausted ∧
    List.Forall₂ View.exceptSchemas.notices told told' ∧
    session.step heard (.descend schema value path) =
      session.replyTo (hearing session.scope.options.hook answer heard told) ∧
    session.step heard (.descend schema' value path) =
      session.replyTo (hearing session.scope.options.hook answer heard told')
  outcome : View.exceptSchemas.BoundsAfter heard session.scope.options.hook →
    (session.step heard (.descend schema value path)).1 =
      (session.step heard (.descend schema' value path)).1

/-- Checks that are in step whatever the budget say the same: what they tell is what somebody hears
who only listens. -/
theorem restates_of_parallels {session : Session} {schema schema' : Node} {value : Json}
    {path : Path} (parallels : ∀ budget budget', budget ≤ budget' →
      Check.Parallels .exceptSchemas
        (Check.descend .chain budget session.scope.recorded schema value path)
        (Check.descend .chain budget' session.scope.recorded schema' value path))
    (heard : List Notice) : session.Restates schema schema' value path heard := by
  let scope := session.scope
  let budget := enoughIn scope schema value
  let budget' := enoughIn scope schema' value + budget
  have hends : Check.answer .chain budget scope schema value path ≠ .error .exhausted :=
    answer_enoughIn (Nat.le_refl _) path
  obtain ⟨told, htold⟩ := Check.descend_tells Guard.chain_ignoresHook budget scope scope.trials
    schema value path
  obtain ⟨told', htold'⟩ := Check.descend_tells Guard.chain_ignoresHook budget' scope scope.trials
    schema' value path
  have hrecorded : View.exceptSchemas.Ends (Check.answer .chain budget scope schema value path, told)
      (Check.answer .chain budget' scope schema' value path, told') := by
    have hstep := parallels budget budget' (Nat.le_add_left _ _) [] [] .nil
    have hrun := htold.on_eq (some .recording) []
    have hrun' := htold'.on_eq (some .recording) []
    rw [hearing_recording] at hrun hrun'
    change (Check.descend _ _ scope.recorded _ _ _).on _ = _ at hrun hrun'
    rw [hrun, hrun'] at hstep
    exact hstep (avoids_exhausted hends)
  have hsame : Check.answer .chain budget scope schema value path =
      Check.answer .chain budget' scope schema' value path := hrecorded.answer.eq
  have hstep : session.step heard (.descend schema value path) = session.replyTo
      (hearing scope.options.hook (Check.answer .chain budget scope schema value path) heard told) := by
    rw [step_descend, ← htold.on_eq]
    rfl
  have hstep' : session.step heard (.descend schema' value path) = session.replyTo
      (hearing scope.options.hook (Check.answer .chain budget scope schema value path) heard told') := by
    rw [step_descend_of_le (Nat.le_add_right _ budget), hsame, ← htold'.on_eq]
    rfl
  refine ⟨⟨_, told, told', hends, hrecorded.heard, hstep, hstep'⟩, fun bounds => ?_⟩
  have hfst := View.hearing_fst_eq bounds hrecorded.heard
    (Check.answer .chain budget scope schema value path)
  rw [hstep, hstep', replyTo, replyTo, show (hearing scope.options.hook _ heard told).1 = _ from hfst]

end Session

end JsonSchema
