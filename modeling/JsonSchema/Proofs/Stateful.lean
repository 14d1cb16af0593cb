/-! Actions that may fail, over a state that remains when they do: what they come to, and the
state after it. -/
namespace JsonSchema

variable {ε σ α β : Type}

theorem run_bind (action : ExceptT ε (StateM σ) α) (next : α → ExceptT ε (StateM σ) β) (state : σ) :
    (action >>= next).run.run state =
      match action.run.run state with
      | (.ok a, after) => (next a).run.run after
      | (.error e, after) => (.error e, after) := by
  rcases h : action.run.run state with ⟨outcome, after⟩
  have haction : action state = (outcome, after) := h
  change (StateT.bind action (ExceptT.bindCont next) state : Id _) = _
  cases outcome <;> simp only [StateT.bind, haction] <;> rfl

/-- What is done in the end is done after a good end and after a fault, which remains. -/
theorem run_finally (action : ExceptT ε (StateM σ) α) (change : σ → σ) (state : σ) :
    (tryFinally action (modify change : ExceptT ε (StateM σ) PUnit)).run.run state =
      ((action.run.run state).1, change (action.run.run state).2) := by
  rcases h : action.run.run state with ⟨outcome, after⟩
  have hrun : action state = (outcome, after) := h
  unfold tryFinally ExceptT.run StateT.run
  simp only [tryFinally', ExceptT.mk, Functor.map, ExceptT.map, StateT.bind, bind, hrun]
  cases outcome <;> rfl

/-- Steps that each leave the state as they find it do so together, and come to what they come to
one by one from that state. -/
theorem run_mapM {f : α → ExceptT ε (StateM σ) β} {state : σ} {l : List α}
    (keeps : ∀ a ∈ l, ((f a).run.run state).2 = state) :
    (l.mapM f).run.run state = (l.mapM fun a => ((f a).run.run state).1, state) := by
  induction l with
  | nil => rfl
  | cons a rest ih =>
    rw [List.forall_mem_cons] at keeps
    obtain ⟨hhead, hrest⟩ := keeps
    rw [List.mapM_cons, List.mapM_cons, run_bind]
    rcases h : (f a).run.run state with ⟨outcome, after⟩
    rw [h] at hhead
    obtain rfl : after = state := hhead
    cases outcome with
    | error e => rfl
    | ok b =>
      dsimp only
      rw [run_bind, ih hrest]
      cases (rest.mapM fun a => ((f a).run.run after).1) <;> rfl

end JsonSchema
