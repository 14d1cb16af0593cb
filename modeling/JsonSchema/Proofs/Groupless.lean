import JsonSchema.Format
import JsonSchema.Proofs.Inside

/-! Expressions without groups. What a try remembers of them is only where it has come, so no
group can have been left before it was entered, and a search always ends with or without a
match. All registered formats are expressions of this kind. -/
namespace JsonSchema

namespace Pattern

def Expr.isGroupless : Expr → Bool
  | .group _ _ => false
  | .seq a b | .alt a b | .cond _ a b => a.isGroupless && b.isGroupless
  | .loop _ _ _ a | .atomic a | .look _ _ a => a.isGroupless
  | _ => true

/-- Nothing is remembered of any group. -/
def Memory.Blank (m : Memory) : Prop :=
  m.marks = []

/-- What is next leaves a blank memory blank. -/
def Next.KeepsBlank (next : Next) : Prop :=
  ∀ (p : Place) (m : Memory), m.Blank → (next.run p m).memory.Blank

def Run.KeepsBlank (run : Run) : Prop :=
  ∀ (inLoop : Bool) (next : Next), next.KeepsBlank → ∀ (p : Place) (m : Memory), m.Blank →
    (run inLoop next p m).memory.Blank

theorem Memory.Blank.restore {m tried : Memory} (h : m.Blank) (htried : tried.Blank)
    (inLoop : Bool) : (m.restore inLoop tried).Blank := by
  unfold Blank at *
  cases inLoop with
  | true => exact h
  | false => simp [Memory.restore, htried]

theorem Memory.Blank.reach {m : Memory} (h : m.Blank) (p : Place) : (m.reach p).Blank :=
  h

theorem Memory.Blank.afterRun {m : Memory} (h : m.Blank) (test : CharTest) (p : Place) :
    (m.afterRun test p).Blank := by
  unfold Memory.afterRun
  split <;> exact h

theorem Next.done_keepsBlank : Next.done.KeepsBlank :=
  fun _ _ h => h

section Loops

variable {next : Next} (hnext : next.KeepsBlank)
include hnext

theorem tryEach_blank (inLoop : Bool) (places : List Place) {m : Memory} (h : m.Blank) :
    (tryEach inLoop next places m).memory.Blank := by
  induction places generalizing m with
  | nil => exact h
  | cons p rest ih =>
    have htried := hnext p (m.reach p) h
    unfold tryEach
    split
    · dsimp only
      split
      · exact htried
      · exact ih (h.restore htried inLoop)
    · exact ih h

theorem tryFewest_blank (inLoop : Bool) (test : CharTest) (position : Nat) (before rest : List Char)
    (high : Option Nat) {m : Memory} (h : m.Blank) :
    (tryFewest inLoop next test position before rest high m).memory.Blank := by
  induction rest generalizing position before high m with
  | nil =>
    have htried := hnext ⟨position, before, []⟩ (m.reach ⟨position, before, []⟩) h
    unfold tryFewest
    dsimp only
    split
    · exact htried
    · exact h.restore htried inLoop
  | cons c rest ih =>
    let p : Place := ⟨position, before, c :: rest⟩
    have htried := hnext p (m.reach p) h
    have hrestored := h.restore htried inLoop
    unfold tryFewest
    dsimp only
    split
    · exact htried
    · split
      · split
        · exact (hrestored.reach p).afterRun _ _
        · exact ih _ _ _ ((hrestored.reach p).afterRun _ _)
      · exact hrestored

theorem manyOf_blank (greed : Greed) (low : Nat) (high : Option Nat) (test : CharTest)
    (inLoop : Bool) (p : Place) {m : Memory} (h : m.Blank) :
    (manyOf greed low high test inLoop next p m).memory.Blank := by
  have hreached (last : Place) : ((m.reach p).afterRun test last).Blank :=
    (h.reach p).afterRun test last
  unfold manyOf
  cases greed with
  | greedy =>
    dsimp only
    split
    · exact hreached _
    · exact tryEach_blank hnext inLoop _ (hreached _)
  | lazy =>
    dsimp only
    split
    · exact hreached _
    · exact tryFewest_blank hnext inLoop test _ _ _ _ (hreached _)
  | possessive =>
    dsimp only
    split
    · exact hreached _
    · exact hnext _ _ (hreached _)

theorem greedyLoop_blank {body : Run} (hbody : body.KeepsBlank) (low : Nat) (high : Option Nat)
    (fuel count : Nat) (last : Option Nat) (p : Place) {m : Memory} (h : m.Blank) :
    (greedyLoop body low high next fuel count last p m).memory.Blank := by
  induction fuel generalizing count last p m with
  | zero => exact h
  | succ fuel ih =>
    have hagain (last : Option Nat) :
        Next.KeepsBlank ⟨none, greedyLoop body low high next fuel (count + 1) last⟩ :=
      fun p m h => ih (count + 1) last p h
    have hround (last : Option Nat) := hbody true _ (hagain last) p (m.reach p) h
    have hleave := hnext p (m.reach p) h
    unfold greedyLoop
    dsimp only
    split
    · split <;> exact hround _
    · split
      · split
        · exact hround _
        · split <;> exact hleave
      · split <;> exact hleave

theorem lazyLoop_blank {body : Run} (hbody : body.KeepsBlank) (low : Nat) (high : Option Nat)
    (inLoop : Bool) (fuel count : Nat) (last : Option Nat) (p : Place) {m : Memory} (h : m.Blank) :
    (lazyLoop body low high inLoop next fuel count last p m).memory.Blank := by
  induction fuel generalizing count last p m with
  | zero => exact h
  | succ fuel ih =>
    have hagain (last : Option Nat) :
        Next.KeepsBlank ⟨none, lazyLoop body low high inLoop next fuel (count + 1) last⟩ :=
      fun p m h => ih (count + 1) last p h
    have hleave := hnext p (m.reach p) h
    have hrestored := h.restore hleave inLoop
    unfold lazyLoop
    dsimp only
    split
    · split <;> exact hbody true _ (hagain _) p (m.reach p) h
    · split
      · exact hleave
      · split
        · split <;> exact hbody true _ (hagain _) p _ hrestored
        · exact hrestored

theorem Outcome.andThen_blank {settled : Outcome} (h : settled.memory.Blank) :
    (settled.andThen next).memory.Blank := by
  unfold andThen
  split
  · exact hnext _ _ h
  · exact h

end Loops

theorem possessiveLoop_blank {body : Try}
    (hbody : ∀ (p : Place) (m : Memory), m.Blank → (body p m).memory.Blank) (low : Nat)
    (high : Option Nat) (start : Place) (fuel count : Nat) (last : Option Nat) {m : Memory}
    (h : m.Blank) : (possessiveLoop body low high start fuel count last m).memory.Blank := by
  induction fuel generalizing count last m with
  | zero => exact h
  | succ fuel ih =>
    have hround := hbody m.reached m h
    unfold possessiveLoop
    dsimp only
    split
    · split
      · exact ih _ _ hround
      · exact hround
    · split
      · split
        · exact ih _ _ hround
        · exact h
      · exact h

/-- By induction on the expression: running it without groups remembers none. -/
theorem Expr.run_keepsBlank (size : Nat) {e : Expr} (groupless : e.isGroupless) :
    Run.KeepsBlank (e.run size) := by
  induction e with
  | empty => exact fun _ next hnext p m h => hnext p m h
  | never => exact fun _ _ _ _ _ h => h
  | one test =>
    intro _ next hnext p m h
    unfold run
    split
    · exact hnext _ m h
    · exact h
  | seq a b iha ihb =>
    rw [isGroupless, Bool.and_eq_true] at groupless
    intro inLoop next hnext p m h
    exact iha groupless.1 inLoop ⟨b.firstPoint? next, b.run size inLoop next⟩
      (ihb groupless.2 inLoop next hnext) p m h
  | alt a b iha ihb =>
    rw [isGroupless, Bool.and_eq_true] at groupless
    intro inLoop next hnext p m h
    have hfirst := iha groupless.1 inLoop next.outside hnext p (m.reach p) h
    have hsecond {m : Memory} (h : m.Blank) := ihb groupless.2 inLoop next.outside hnext p m h
    unfold run
    split
    · dsimp only
      split
      · exact hfirst
      · exact hsecond (h.restore hfirst inLoop)
    · exact hsecond h
  | group number a => cases groupless
  | many greed low high test =>
    intro inLoop next hnext p m h
    unfold run
    split
    · exact h
    · exact manyOf_blank hnext greed low high test inLoop p h
  | loop greed low high a ih =>
    intro inLoop next hnext p m h
    cases greed with
    | greedy => exact greedyLoop_blank hnext (ih groupless) low high _ _ _ p h
    | lazy => exact lazyLoop_blank hnext (ih groupless) low high inLoop _ _ _ p h
    | possessive =>
      exact Outcome.andThen_blank hnext (possessiveLoop_blank
        (fun p m h => ih groupless inLoop .done Next.done_keepsBlank p m h) low high p _ _ _ h)
  | atomic a ih =>
    intro inLoop next hnext p m h
    have hsettled := ih groupless inLoop .done Next.done_keepsBlank p (m.reach p) h
    unfold run
    dsimp only
    split
    · exact Outcome.andThen_blank hnext hsettled
    · exact hsettled
  | look negated width a ih =>
    intro inLoop next hnext p m h
    have hfound (earlier : Place) :=
      ih groupless inLoop .done Next.done_keepsBlank earlier (m.reach earlier) h
    unfold run
    split
    · split
      · exact hnext p m h
      · exact h
    · dsimp only
      split
      · split
        · exact hfound _
        · exact hnext p _ (h.restore (hfound _) inLoop)
      · split
        · exact hnext p _ (hfound _)
        · exact hfound _
  | back folding number =>
    intro _ next hnext p m h
    unfold run
    split
    · exact hnext _ m h
    · exact h
  | cond number met unmet ihmet ihunmet =>
    rw [isGroupless, Bool.and_eq_true] at groupless
    intro inLoop next hnext p m h
    unfold run
    split
    · split
      · exact ihmet groupless.1 inLoop next hnext p m h
      · exact ihmet groupless.1 inLoop next.outside hnext p m h
    · exact ihunmet groupless.2 inLoop next hnext p m h
  | anchor place =>
    intro _ next hnext p m h
    unfold run
    split
    · exact hnext p m h
    · exact h

variable {pattern : Pattern} (groupless : pattern.expr.isGroupless)
include groupless

theorem matchAt_blank {size : Nat} {p : Place} {m : Memory} (h : pattern.matchAt size p = some m) :
    m.Blank := by
  unfold matchAt at h
  split at h
  · dsimp only at h
    split at h <;> cases h
    exact Expr.run_keepsBlank size groupless false .done Next.done_keepsBlank p _ rfl
  · cases h

theorem searchFrom_blank {size position : Nat} {before rest : List Char} {m : Memory}
    (h : pattern.searchFrom size position before rest = some m) : m.Blank := by
  induction rest generalizing position before with
  | nil => exact matchAt_blank groupless h
  | cons c rest ih =>
    unfold searchFrom at h
    split at h
    · rename_i hmatch
      cases h
      exact matchAt_blank groupless hmatch
    · exact ih h

/-- A search for an expression without groups ends with or without a match. -/
theorem foundIn_ok (text : String) : ∃ found, pattern.foundIn text = .ok found := by
  unfold foundIn
  dsimp only
  split
  · exact ⟨_, rfl⟩
  · split
    · rename_i m hsearch
      have hblank := searchFrom_blank groupless hsearch
      rw [Memory.Blank] at hblank
      rw [hblank]
      exact ⟨_, rfl⟩
    · exact ⟨_, rfl⟩

end Pattern

namespace Format

def isGroupless : Format → Bool
  | .pattern (.ok meaning) => meaning.expr.isGroupless
  | .pattern (.error _) => false
  | .regex => true

theorem append_signs {s t : String} {cs ds : List Char} (hs : s.toList = cs) (ht : t.toList = ds) :
    (s ++ t).toList = cs ++ ds := by
  rw [String.toList_append, hs, ht]

/-- The longest text is read from its signs, since a text that is put together is slow to take
apart again. -/
theorem email_groupless : (Format.pattern (Pattern.ofText? emailText)).isGroupless := by
  have hatom : atom.toList = _ := append_signs (append_signs rfl rfl) rfl
  have hsign : quotedSign.toList = _ :=
    append_signs (append_signs (append_signs (append_signs rfl rfl) rfl) rfl) rfl
  have hquoted : quotedPart.toList = _ :=
    append_signs (append_signs (append_signs (append_signs (append_signs rfl rfl) hsign) rfl) rfl)
      rfl
  have hmiddle : domainMiddle.toList = _ := append_signs (append_signs rfl rfl) rfl
  have hlabel {outer : String} {signs : List Char} (houter : outer.toList = signs) :
      (domainLabel outer).toList = _ :=
    append_signs (append_signs (append_signs (append_signs (append_signs (append_signs rfl houter)
      rfl) houter) hmiddle) houter) rfl
  have hinner : ("(?:[a-z]|\\d|" ++ foreignLetter ++ ")").toList = _ :=
    append_signs (append_signs rfl rfl) rfl
  have hlast : ("(?:[a-z]|" ++ foreignLetter ++ ")").toList = _ :=
    append_signs (append_signs rfl rfl) rfl
  have hlocal : ("(?i)^(?:" ++ atom ++ "(?:\\." ++ atom ++ ")*|" ++ quotedPart).toList = _ :=
    append_signs (append_signs (append_signs (append_signs (append_signs rfl hatom) rfl) hatom) rfl)
      hquoted
  have hemail : emailText.toList = _ :=
    append_signs (append_signs (append_signs (append_signs (append_signs hlocal rfl)
      (hlabel hinner)) rfl) (hlabel hlast)) rfl
  unfold Pattern.ofText? Pattern.termsOf
  rw [hemail]
  decide +kernel

theorem registered_groupless : ∀ entry ∈ registered, entry.2.isGroupless :=
  List.forall_mem_cons.mpr ⟨email_groupless, by decide +kernel⟩

/-- Of the registered formats only that of being an expression fails, with a text that is not
read and yet not malformed. -/
theorem accepts_error {name : String} {format : Format} (h : named? name = some format)
    {s : String} {flaw : Pattern.Flaw} (herror : format.accepts s = .error flaw) :
    format = .regex ∧ Pattern.ofText? s = .error flaw ∧ flaw ≠ .malformed := by
  have hgroupless := registered_groupless (name, format) (Node.mem_of_lookup h)
  cases format with
  | pattern meaning =>
    cases meaning with
    | error flaw => cases hgroupless
    | ok pattern =>
      obtain ⟨found, hfound⟩ := Pattern.foundIn_ok hgroupless s
      cases hfound.symm.trans herror
  | regex =>
    rw [accepts] at herror
    split at herror <;> cases herror
    rename_i malformed hmeaning
    exact ⟨rfl, hmeaning, malformed⟩

end Format

end JsonSchema
