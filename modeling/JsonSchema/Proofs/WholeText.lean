import JsonSchema.Proofs.Matching

/-! Patterns that hold whole texts. A pattern that starts where the text does and ends where it
ends is found exactly in the texts that its parts match one after the other. -/
namespace JsonSchema

namespace Pattern

namespace Expr

/-- Parts up to the end of a text. -/
def toEnd : List Expr → Expr
  | [] => .seq (.anchor .textEnd) .empty
  | e :: parts => .seq e (toEnd parts)

/-- Parts from the start of a text to its end. -/
def whole (parts : List Expr) : Expr :=
  .seq (.anchor .textStart) (toEnd parts)

/-- The texts that parts match one after the other. -/
def languageAll (parts : List Expr) : Language Char :=
  (parts.map language).prod

@[simp] theorem languageAll_cons (e : Expr) (parts : List Expr) :
    languageAll (e :: parts) = e.language * languageAll parts := by
  rw [languageAll, List.map_cons, List.prod_cons, languageAll]

@[simp] theorem languageAll_nil : languageAll [] = 1 :=
  rfl

def leastAll (parts : List Expr) : Nat :=
  (parts.map least).sum

theorem leastAll_le_length {parts : List Expr} {w : List Char} (hw : w ∈ languageAll parts) :
    leastAll parts ≤ w.length := by
  induction parts generalizing w with
  | nil => exact Nat.zero_le _
  | cons e parts ih =>
    rw [languageAll_cons] at hw
    obtain ⟨u, hu, v, hv, rfl⟩ := Language.mem_mul.mp hw
    rw [leastAll, List.map_cons, List.sum_cons, List.length_append]
    exact Nat.add_le_add (least_le_length hu) (ih hv)

theorem isGroupless_of_isRegular {e : Expr} (regular : e.isRegular) : e.isGroupless := by
  induction e with
  | seq a b iha ihb | alt a b iha ihb =>
    rw [isRegular, Bool.and_eq_true] at regular
    rw [isGroupless, iha regular.1, ihb regular.2]
    rfl
  | loop greed low high a ih =>
    cases greed with
    | greedy =>
      rw [isRegular, Bool.and_eq_true] at regular
      exact ih regular.2
    | _ => cases regular
  | empty | never | one | many => rfl
  | _ => cases regular

theorem firstPoint?_seq (a b : Expr) (next : Next) (run : Try) :
    (Expr.seq a b).firstPoint? next = a.firstPoint? ⟨b.firstPoint? next, run⟩ := by
  cases ha : a.isEmpty <;> cases hb : b.isEmpty <;> simp [firstPoint?, isEmpty, firstTest?, ha, hb]

section Parts

variable {parts : List Expr} (regular : ∀ e ∈ parts, e.isRegular)
include regular

theorem whole_isGroupless : (whole parts).isGroupless := by
  rw [whole, isGroupless, Bool.and_eq_true]
  refine ⟨rfl, ?_⟩
  induction parts with
  | nil => rfl
  | cons e parts ih =>
    obtain ⟨hfirst, hrest⟩ := List.forall_mem_cons.mp regular
    rw [toEnd, isGroupless, isGroupless_of_isRegular hfirst, ih hrest]
    rfl

theorem toEnd_accepts (size reach : Nat) (inLoop : Bool) :
    Next.Accepts size reach
      ⟨(toEnd parts).firstPoint? .done, (toEnd parts).run size inLoop .done⟩
      (languageAll parts) := by
  induction parts with
  | nil =>
    refine Next.accepts_of_run fun p m _ => ?_
    rw [languageAll_nil, Language.mem_one]
    simp only [toEnd, run, Anchor.holds, List.isEmpty_iff]
    by_cases hend : p.rest = []
    · rw [if_pos hend]
      exact iff_of_true rfl hend
    · rw [if_neg hend]
      exact iff_of_false Bool.false_ne_true hend
  | cons e parts ih =>
    obtain ⟨hfirst, hrest⟩ := List.forall_mem_cons.mp regular
    have hnext := ih hrest
    rw [toEnd, firstPoint?_seq, languageAll_cons]
    exact next_accepts (run_accepts size hfirst inLoop hnext) hnext

/-- A whole text is tried at its start only. -/
theorem whole_matched_iff (size : Nat) (inLoop : Bool) {p : Place}
    (within : p.position + p.rest.length = size) (m : Memory) :
    ((whole parts).run size inLoop .done p m).matched ↔
      p.before = [] ∧ p.rest ∈ languageAll parts := by
  have hparts := (toEnd_accepts regular size p.rest.length inLoop).run p m ⟨within, le_rfl⟩
  rw [whole, run, run, Anchor.holds, ← List.isEmpty_iff]
  split
  · rename_i hstart
    rw [hparts, and_iff_right hstart]
  · rename_i hlater
    exact iff_of_false Bool.false_ne_true fun h => hlater h.1

end Parts

end Expr

open Pattern.Expr

section Found

variable {parts : List Expr} (regular : ∀ e ∈ parts, e.isRegular) (low : Nat) {left : Nat}
  (hleft : left ≤ leastAll parts)
include regular

theorem matchAt_whole_later {size position : Nat} {before rest : List Char}
    (within : position + rest.length = size) (later : before ≠ []) :
    (Pattern.mk (whole parts) low ⟨left, none⟩).matchAt size ⟨position, before, rest⟩ = none := by
  unfold matchAt
  split
  · dsimp only
    rw [if_neg]
    rw [whole_matched_iff regular size false within]
    exact fun h => later h.1
  · rfl

theorem searchFrom_whole_later {size position : Nat} {before rest : List Char}
    (within : position + rest.length = size) (later : before ≠ []) :
    (Pattern.mk (whole parts) low ⟨left, none⟩).searchFrom size position before rest = none := by
  induction rest generalizing position before with
  | nil => exact matchAt_whole_later regular low within later
  | cons c rest ih =>
    rw [List.length_cons] at within
    rw [searchFrom, matchAt_whole_later regular low (by simpa using within) later]
    exact ih (by omega) (List.cons_ne_nil c before)

include hleft in
theorem matchAt_whole_start (text : List Char) :
    ((Pattern.mk (whole parts) low ⟨left, none⟩).matchAt text.length (.start text)).isSome ↔
      text ∈ languageAll parts := by
  have hmatched := whole_matched_iff regular text.length false (p := .start text)
    (Nat.zero_add _) (.start (.start text))
  unfold matchAt mayStart
  split
  · dsimp only
    split
    · rename_i h
      exact iff_of_true rfl (hmatched.mp h).2
    · rename_i h
      exact iff_of_false Bool.false_ne_true fun hmem => h (hmatched.mpr ⟨rfl, hmem⟩)
  · rename_i hshort
    refine iff_of_false Bool.false_ne_true fun hmem => hshort ?_
    have hleast := leastAll_le_length hmem
    simpa [Place.start] using hleft.trans hleast

theorem searchFrom_whole_start (text : List Char) :
    (Pattern.mk (whole parts) low ⟨left, none⟩).searchFrom text.length 0 [] text =
      (Pattern.mk (whole parts) low ⟨left, none⟩).matchAt text.length (.start text) := by
  cases text with
  | nil => rfl
  | cons c rest =>
    rw [searchFrom,
      searchFrom_whole_later regular low (by simp [Nat.add_comm]) (List.cons_ne_nil c [])]
    split
    · rename_i m hfound
      exact hfound.symm
    · rename_i hnone
      exact hnone.symm

include hleft in
/-- A search for parts from the start of a text to its end always ends, with a match exactly for
the texts that the parts make up. -/
theorem foundIn_whole (hlow : low ≤ leastAll parts) (text : String) :
    ∃ found, (Pattern.mk (whole parts) low ⟨left, none⟩).foundIn text = .ok found ∧
      (found ↔ text.toList ∈ languageAll parts) := by
  have hgroupless : (Pattern.mk (whole parts) low ⟨left, none⟩).expr.isGroupless :=
    whole_isGroupless regular
  obtain ⟨found, hfound⟩ := foundIn_ok hgroupless text
  refine ⟨found, hfound, ?_⟩
  have hsearch := matchAt_whole_start regular low hleft text.toList
  rw [← searchFrom_whole_start regular low] at hsearch
  unfold foundIn at hfound
  dsimp only at hfound
  split at hfound
  · rename_i hshort
    cases hfound
    refine iff_of_false Bool.false_ne_true fun hmem => ?_
    have hleast := leastAll_le_length hmem
    omega
  · split at hfound
    · rename_i m hsome
      rw [hsome] at hsearch
      split at hfound
      · cases hfound
      · cases hfound
        exact iff_of_true rfl (hsearch.mp rfl)
    · rename_i hnone
      rw [hnone] at hsearch
      cases hfound
      exact iff_of_false Bool.false_ne_true fun hmem => Bool.false_ne_true (hsearch.mpr hmem)

end Found

end Pattern

namespace Format

/-- A registered format tells the texts of a grammar from all others, and always comes to an
end. -/
def Decides (name : String) (grammar : List Char → Prop) : Prop :=
  ∃ format, named? name = some format ∧
    ∀ text : String, ∃ fits, format.accepts text = .ok fits ∧ (fits ↔ grammar text.toList)

open Pattern Expr

theorem decides_of_whole {name text : String} {parts : List Expr} {low left : Nat}
    (hname : named? name = some (.pattern (ofText? text)))
    (htext : ofText? text = .ok ⟨whole parts, low, ⟨left, none⟩⟩)
    (regular : ∀ e ∈ parts, e.isRegular) (hlow : low ≤ leastAll parts)
    (hleft : left ≤ leastAll parts) {grammar : List Char → Prop}
    (hgrammar : ∀ w, w ∈ languageAll parts ↔ grammar w) : Decides name grammar := by
  refine ⟨_, hname, fun s => ?_⟩
  obtain ⟨found, hfound, hiff⟩ := foundIn_whole regular low hleft hlow s
  refine ⟨found, ?_, hiff.trans (hgrammar _)⟩
  rw [accepts, htext]
  exact hfound

end Format

end JsonSchema
