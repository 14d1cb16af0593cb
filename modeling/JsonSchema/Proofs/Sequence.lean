import Mathlib.Data.List.Forall2

/-! Lists of steps of which each may fail. The first failure ends them all. -/
namespace JsonSchema

variable {α β ε : Type} {f f' : α → Except ε β}

theorem map_eq_ok_iff {x : Except ε α} {g : α → β} {b : β} :
    x.map g = .ok b ↔ ∃ a, x = .ok a ∧ g a = b := by
  cases x <;> simp [Except.map]

theorem map_eq_error_iff {x : Except ε α} {g : α → β} {e : ε} :
    x.map g = .error e ↔ x = .error e := by
  cases x <;> simp [Except.map]

theorem mapM_cons_ok {a : α} {b : β} (h : f a = .ok b) (l : List α) :
    (a :: l).mapM f = (l.mapM f).map (b :: ·) := by
  rw [List.mapM_cons, h]
  cases l.mapM f <;> rfl

theorem mapM_cons_error {a : α} {e : ε} (h : f a = .error e) (l : List α) :
    (a :: l).mapM f = .error e := by
  rw [List.mapM_cons, h]
  rfl

/-- All come to something, one by one and in order. -/
theorem mapM_eq_ok_iff (l : List α) (bs : List β) :
    l.mapM f = .ok bs ↔ List.Forall₂ (fun a b => f a = .ok b) l bs := by
  induction l generalizing bs with
  | nil =>
    rw [List.forall₂_nil_left_iff]
    refine ⟨fun h => ?_, fun h => h ▸ rfl⟩
    cases h
    rfl
  | cons a rest ih =>
    rw [List.forall₂_cons_left_iff]
    cases ha : f a with
    | error e =>
      rw [mapM_cons_error ha]
      exact ⟨nofun, fun ⟨_, _, h, _⟩ => nomatch h⟩
    | ok b =>
      rw [mapM_cons_ok ha]
      constructor
      · intro h
        cases hrest : rest.mapM f with
        | error e =>
          rw [hrest] at h
          cases h
        | ok bs' =>
          rw [hrest] at h
          cases h
          exact ⟨b, bs', rfl, (ih bs').mp hrest, rfl⟩
      · rintro ⟨_, bs', ⟨⟩, hrest, rfl⟩
        rw [(ih bs').mpr hrest]
        rfl

/-- Together they come to something exactly if each does. -/
theorem mapM_isOk_iff (l : List α) : (∃ bs, l.mapM f = .ok bs) ↔ ∀ a ∈ l, ∃ b, f a = .ok b := by
  induction l with
  | nil => exact iff_of_true ⟨[], rfl⟩ nofun
  | cons a rest ih =>
    rw [List.forall_mem_cons, ← ih]
    cases ha : f a with
    | error e =>
      rw [mapM_cons_error ha]
      exact iff_of_false nofun nofun
    | ok b =>
      rw [mapM_cons_ok ha]
      cases rest.mapM f with
      | error e => exact iff_of_false nofun nofun
      | ok bs => exact iff_of_true ⟨_, rfl⟩ ⟨⟨b, rfl⟩, ⟨bs, rfl⟩⟩

/-- The first that fails decides. -/
theorem mapM_of_first_error {before after : List α} {a : α} {e : ε}
    (good : ∀ earlier ∈ before, ∃ b, f earlier = .ok b) (bad : f a = .error e) :
    (before ++ a :: after).mapM f = .error e := by
  induction before with
  | nil => exact mapM_cons_error bad after
  | cons earlier rest ih =>
    rw [List.forall_mem_cons] at good
    obtain ⟨⟨b, hb⟩, hrest⟩ := good
    rw [List.cons_append, mapM_cons_ok hb, ih hrest]
    rfl

/-- What no step fails with, they do not fail with. -/
theorem mapM_ne_error {l : List α} {e : ε} (avoids : ∀ a ∈ l, f a ≠ .error e) :
    l.mapM f ≠ .error e := by
  induction l with
  | nil => nofun
  | cons a rest ih =>
    rw [List.forall_mem_cons] at avoids
    cases ha : f a with
    | error e' =>
      rw [mapM_cons_error ha]
      intro h
      cases h
      exact avoids.1 ha
    | ok b =>
      rw [mapM_cons_ok ha]
      cases hrest : rest.mapM f with
      | error e' =>
        intro h
        cases h
        exact ih avoids.2 hrest
      | ok bs => nofun

theorem exists_of_mapM_error {l : List α} {e : ε} (h : l.mapM f = .error e) :
    ∃ a ∈ l, f a = .error e := by
  by_contra hnone
  exact mapM_ne_error (fun a hmem ha => hnone ⟨a, hmem, ha⟩) h

/-- Steps that come to the same unless they fail in one way do so together. -/
theorem mapM_agrees {l : List α} {e : ε} (same : ∀ a ∈ l, f a ≠ .error e → f' a = f a)
    (avoids : l.mapM f ≠ .error e) : l.mapM f' = l.mapM f := by
  induction l with
  | nil => rfl
  | cons a rest ih =>
    rw [List.forall_mem_cons] at same
    cases ha : f a with
    | error e' =>
      rw [mapM_cons_error ha] at avoids ⊢
      refine mapM_cons_error ((same.1 fun h => ?_).trans ha) rest
      cases ha.symm.trans h
      exact avoids rfl
    | ok b =>
      have ha' : f' a = .ok b := (same.1 fun h => nomatch ha.symm.trans h).trans ha
      rw [mapM_cons_ok ha] at avoids ⊢
      rw [mapM_cons_ok ha', ih same.2]
      intro h
      rw [h] at avoids
      exact avoids rfl

theorem mapM_congr {γ : Type} {g : γ → Except ε β} {l : List α} {l' : List γ}
    (same : List.Forall₂ (fun a c => f a = g c) l l') : l.mapM f = l'.mapM g := by
  induction same with
  | nil => rfl
  | cons h _ ih => rw [List.mapM_cons, List.mapM_cons, h, ih]

end JsonSchema
