import JsonSchema.Proofs.Groupless
import JsonSchema.Proofs.Language

/-! Backtracking against languages. Running a regular expression before what is next matches
exactly in front of the texts of its language that go on with what is next: no way to match is
passed over, and what is remembered makes no difference. -/
namespace JsonSchema.Pattern

namespace Place

/-- A place in a text of some size at which at most so many characters are left. -/
structure Within (size reach : Nat) (p : Place) : Prop where
  size_eq : p.position + p.rest.length = size
  le_reach : p.rest.length ≤ reach

/-- The place so many characters further on. -/
def forward (n : Nat) (p : Place) : Place :=
  ⟨p.position + n, (p.rest.take n).reverse ++ p.before, p.rest.drop n⟩

theorem Within.forward {size reach n : Nat} {p : Place} (h : p.Within size reach)
    (hn : n ≤ p.rest.length) : (p.forward n).Within size reach := by
  have hsize := h.size_eq
  have hreach := h.le_reach
  constructor
  · simp only [Place.forward, List.length_drop]
    omega
  · simp only [Place.forward, List.length_drop]
    omega

/-- How many characters in a row pass a test, as far as a limit allows. -/
def furthest (test : CharTest) (high : Option Nat) (rest : List Char) : Nat :=
  high.elim (rest.takeWhile test.accepts).length (min (rest.takeWhile test.accepts).length)

theorem le_length_takeWhile_iff (accepts : Char → Bool) (rest : List Char) (n : Nat) :
    n ≤ (rest.takeWhile accepts).length ↔ n ≤ rest.length ∧ ∀ c ∈ rest.take n, accepts c := by
  induction rest generalizing n with
  | nil => simp
  | cons c rest ih =>
    cases n with
    | zero => simp
    | succ n =>
      cases hc : accepts c with
      | true => simp [hc, ih]
      | false => simp [hc]

theorem le_furthest_iff {test : CharTest} {high : Option Nat} {rest : List Char} {n : Nat} :
    n ≤ furthest test high rest ↔
      n ≤ rest.length ∧ (∀ most ∈ high, n ≤ most) ∧ ∀ c ∈ rest.take n, test.accepts c := by
  have hrun := le_length_takeWhile_iff test.accepts rest n
  cases high with
  | none => simpa [furthest] using hrun
  | some most => simpa [furthest, hrun] using and_right_comm.trans and_assoc

/-- The places after a run of characters, in order: all those up to the furthest. -/
theorem run_eq (test : CharTest) (position : Nat) (before rest : List Char) (high : Option Nat)
    (found : List Place) :
    run test position before rest high found =
      ((List.range (furthest test high rest + 1)).map (forward · ⟨position, before, rest⟩)).reverse
        ++ found := by
  induction rest generalizing position before high found with
  | nil =>
    have hnone : furthest test high [] = 0 := by cases high <;> rfl
    rw [hnone]
    rfl
  | cons c rest ih =>
    unfold run
    dsimp only
    split
    · rename_i hgoes
      have hmore : furthest test high (c :: rest) =
          furthest test (high.map (· - 1)) rest + 1 := by
        cases high with
        | none => simp [furthest, hgoes.2]
        | some most =>
          have hmost : most ≠ 0 := fun h => hgoes.1 (congrArg some h)
          simp only [furthest, hgoes.2, List.takeWhile_cons_of_pos, List.length_cons,
            Option.elim_some, Option.map_some]
          omega
      rw [ih, hmore, List.range_succ_eq_map (n := furthest test (high.map (· - 1)) rest + 1)]
      simp only [List.map_cons, List.map_map, List.reverse_cons, List.append_assoc]
      congr 2
      refine List.map_congr_left fun n _ => ?_
      simp only [Function.comp_apply, forward, List.take_succ_cons, List.drop_succ_cons,
        List.reverse_cons, List.append_assoc, List.singleton_append, Place.mk.injEq, and_true]
      omega
    · rename_i hstops
      have hnone : furthest test high (c :: rest) = 0 := by
        rcases not_and_or.mp hstops with h | h
        · simp [furthest, Classical.not_not.mp h]
        · cases high <;> simp [furthest, h]
      rw [hnone]
      rfl

theorem passed_eq (test : CharTest) (high : Option Nat) (p : Place) :
    p.passed test high =
      ((List.range (furthest test high p.rest + 1)).map (forward · p)).reverse := by
  rw [passed, run_eq, List.append_nil]

/-- The places that leave enough characters behind. -/
theorem mem_passed_take {test : CharTest} {high : Option Nat} {p q : Place} {low : Nat} :
    q ∈ (p.passed test high).take ((p.passed test high).length - low) ↔
      ∃ n, low ≤ n ∧ n ≤ furthest test high p.rest ∧ q = p.forward n := by
  rw [passed_eq, List.take_reverse, List.mem_reverse, ← List.map_drop, List.mem_map]
  simp only [List.length_reverse, List.length_map, List.length_range]
  constructor
  · rintro ⟨n, hn, rfl⟩
    obtain ⟨i, hi, rfl⟩ := List.mem_iff_getElem.mp hn
    simp only [List.length_drop, List.length_range] at hi
    simp only [List.getElem_drop, List.getElem_range]
    exact ⟨_, by omega, by omega, rfl⟩
  · rintro ⟨n, hlow, hn, rfl⟩
    refine ⟨n, List.mem_iff_getElem.mpr ⟨n - low, ?_, ?_⟩, rfl⟩
    · simp only [List.length_drop, List.length_range]
      omega
    · simp only [List.getElem_drop, List.getElem_range]
      omega

end Place

/-- A try matches exactly in front of the texts of a language, whatever is remembered. -/
def Try.Accepts (size reach : Nat) (run : Try) (l : Language Char) : Prop :=
  ∀ (p : Place) (m : Memory), p.Within size reach → ((run p m).matched ↔ p.rest ∈ l)

/-- What is next matches exactly in front of the texts of a language, all of which begin with
what it is known to begin with. -/
structure Next.Accepts (size reach : Nat) (next : Next) (l : Language Char) : Prop where
  run : Try.Accepts size reach next.run l
  first : ∀ n ∈ next.first, ∀ w ∈ l, ∃ c rest, w = c :: rest ∧ c.toNat = n

/-- A run takes the texts of a language off what is next. -/
def Run.Accepts (size : Nat) (run : Run) (l : Language Char) : Prop :=
  ∀ {reach : Nat} {next : Next} {k : Language Char} (inLoop : Bool),
    next.Accepts size reach k → Try.Accepts size reach (run inLoop next) (l * k)

section Accepts

variable {size reach : Nat} {next : Next} {k : Language Char}

theorem Next.Accepts.mayStart (h : next.Accepts size reach k) {p : Place} (hp : p.rest ∈ k) :
    next.mayStart p := by
  unfold Next.mayStart
  split
  · rfl
  · rename_i n c rest hfirst hrest
    obtain ⟨c', rest', hcons, hn⟩ := h.first n hfirst p.rest hp
    rw [hrest, List.cons.injEq] at hcons
    rw [hcons.1, hn]
    exact decide_eq_true rfl
  · rename_i n hfirst hrest
    obtain ⟨c', rest', hcons, -⟩ := h.first n hfirst p.rest hp
    cases hrest.symm.trans hcons

theorem Next.accepts_of_run {run : Try} (h : Try.Accepts size reach run k) :
    Next.Accepts size reach ⟨none, run⟩ k :=
  ⟨h, nofun⟩

theorem Next.Accepts.outside (h : next.Accepts size reach k) : next.outside.Accepts size reach k :=
  accepts_of_run h.run

theorem Next.Accepts.mono (h : next.Accepts size reach k) {reach' : Nat} (hle : reach' ≤ reach) :
    next.Accepts size reach' k :=
  ⟨fun p m within => h.run p m ⟨within.size_eq, within.le_reach.trans hle⟩, h.first⟩

/-- Of the places that are tried one after the other the first at which what is next matches
decides. -/
theorem tryEach_matched_iff (h : next.Accepts size reach k) (inLoop : Bool) {places : List Place}
    (within : ∀ p ∈ places, p.Within size reach) (m : Memory) :
    (tryEach inLoop next places m).matched ↔ ∃ p ∈ places, p.rest ∈ k := by
  induction places generalizing m with
  | nil => simp [tryEach, Memory.fail]
  | cons p rest ih =>
    have hp := h.run p (m.reach p) (within p List.mem_cons_self)
    have hrest := ih fun q hq => within q (List.mem_cons_of_mem p hq)
    rw [List.exists_mem_cons_iff]
    unfold tryEach
    dsimp only
    split
    · split
      · rename_i hmatched
        exact iff_of_true hmatched (.inl (hp.mp hmatched))
      · rename_i hfailed
        rw [hrest, or_iff_right fun hk => hfailed (hp.mpr hk)]
    · rename_i hstart
      rw [hrest, or_iff_right fun hk => hstart (h.mayStart hk)]

end Accepts

namespace CharTest

theorem mem_runs_mul {test : CharTest} {low : Nat} {high : Option Nat} {k : Language Char}
    {rest : List Char} :
    rest ∈ test.runs low high * k ↔
      ∃ n, low ≤ n ∧ n ≤ Place.furthest test high rest ∧ rest.drop n ∈ k := by
  simp only [Place.le_furthest_iff]
  constructor
  · rintro ⟨u, ⟨hlow, hhigh, haccepts⟩, v, hv, rfl⟩
    refine ⟨u.length, hlow, ⟨?_, hhigh, ?_⟩, ?_⟩
    · simp
    · simpa using haccepts
    · change (u ++ v).drop u.length ∈ k
      rwa [List.drop_left]
  · rintro ⟨n, hlow, ⟨hn, hhigh, haccepts⟩, hk⟩
    have hlength : (rest.take n).length = n := by simpa using hn
    refine Language.mem_mul.mpr ⟨rest.take n, ⟨?_, ?_, haccepts⟩, rest.drop n, hk,
      List.take_append_drop n rest⟩
    · rw [hlength]
      exact hlow
    · rw [hlength]
      exact hhigh

end CharTest

section Runs

variable {size : Nat}

theorem many_accepts (low : Nat) (high : Option Nat) (test : CharTest) :
    Run.Accepts size ((Expr.many .greedy low high test).run size) (test.runs low high) := by
  intro reach next k inLoop hnext p m within
  have hsize := within.size_eq
  rw [CharTest.mem_runs_mul]
  unfold Expr.run
  split
  · rename_i hshort
    refine iff_of_false Bool.false_ne_true ?_
    rintro ⟨n, hlow, hn, -⟩
    have := (Place.le_furthest_iff.mp hn).1
    omega
  · unfold manyOf
    dsimp only
    split
    · rename_i hfew
      rw [Place.passed_eq] at hfew
      simp only [List.length_reverse, List.length_map, List.length_range] at hfew
      refine iff_of_false Bool.false_ne_true ?_
      rintro ⟨n, hlow, hn, -⟩
      omega
    · have hplaces : (if low = 0 then p.passed test high
          else (p.passed test high).take ((p.passed test high).length - low)) =
          (p.passed test high).take ((p.passed test high).length - low) := by
        split
        · rename_i hzero
          rw [hzero, Nat.sub_zero, List.take_length]
        · rfl
      rw [hplaces, tryEach_matched_iff hnext]
      · simp only [Place.mem_passed_take]
        constructor
        · rintro ⟨q, ⟨n, hlow, hn, rfl⟩, hk⟩
          exact ⟨n, hlow, hn, hk⟩
        · rintro ⟨n, hlow, hn, hk⟩
          exact ⟨_, ⟨n, hlow, hn, rfl⟩, hk⟩
      · intro q hq
        obtain ⟨n, -, hn, rfl⟩ := Place.mem_passed_take.mp hq
        exact within.forward (Place.le_furthest_iff.mp hn).1

/-- What an optional round may leave of so many characters: fewer of them, in front of which
further rounds and what is next match, or all of them, in front of which what is next does. -/
def afterRound (low : Nat) (high : Option Nat) (count : Nat) (l k : Language Char) (left : Nat) :
    Language Char :=
  {w | w.length = left ∧ w ∈ k ∨ w.length < left ∧ w ∈ remaining low high (count + 1) l * k}

theorem mem_remaining_mul_iff {low count : Nat} {high : Option Nat} {l k : Language Char}
    (enough : low ≤ count) (below : ∀ most ∈ high, count < most) {w : List Char} :
    w ∈ remaining low high count l * k ↔
      w ∈ l * afterRound low high count l k w.length ∨ w ∈ k := by
  rw [Language.mem_mul, Language.mem_mul]
  constructor
  · rintro ⟨u, hu, v, hv, rfl⟩
    rcases remaining_cases enough hu with rfl | ⟨-, u, hfirst, nonempty, u', hrest, rfl⟩
    · exact .inr hv
    · refine .inl ⟨u, hfirst, u' ++ v, .inr ⟨?_, ?_⟩, (List.append_assoc u u' v).symm⟩
      · have := List.length_pos_iff.mpr nonempty
        simp only [List.length_append]
        omega
      · exact Language.append_mem_mul hrest hv
  · rintro (⟨u, hu, v, ⟨hlength, hv⟩ | ⟨-, hv⟩, rfl⟩ | hw)
    · obtain rfl : u = [] := by
        have hsum : (u ++ v).length = u.length + v.length := List.length_append
        exact List.eq_nil_of_length_eq_zero (by omega)
      exact ⟨[], nil_mem_remaining enough fun most hmost => (below most hmost).le, v, hv, rfl⟩
    · obtain ⟨u', hrounds, v', hnext, rfl⟩ := Language.mem_mul.mp hv
      exact ⟨u ++ u', append_mem_remaining enough hu hrounds, v', hnext,
        List.append_assoc u u' v'⟩
    · exact ⟨[], nil_mem_remaining enough fun most hmost => (below most hmost).le, w, hw, rfl⟩

theorem orElse_matched_iff (tried other : Outcome) :
    (if tried.matched then tried else other).matched ↔ tried.matched ∨ other.matched := by
  split
  · rename_i h
    simp [h]
  · rename_i h
    simp [h]

section Loop

variable {body : Run} {l : Language Char} (hbody : Run.Accepts size body l) {low : Nat}
  {high : Option Nat} (limits : ∀ most ∈ high, low ≤ most) {next : Next} {k : Language Char}

/-- A loop that goes on no further leaves at once. -/
theorem greedyLoop_leaves {reach : Nat} (hnext : next.Accepts size reach k) {fuel count : Nat}
    {last : Option Nat} (enough : low ≤ count) {p : Place} (m : Memory)
    (within : p.Within size reach) (stays : mayRepeat high count last p = false) :
    (greedyLoop body low high next (fuel + 1) count last p m).matched ↔ p.rest ∈ k := by
  unfold greedyLoop
  dsimp only
  rw [if_neg (Nat.not_lt.mpr enough), stays, if_neg Bool.false_ne_true, orElse_matched_iff,
    hnext.run p _ within]
  exact or_iff_left Bool.false_ne_true

/-- What follows an optional round: it took nothing, and the loop is left, or it took something,
and the loop goes on with fewer characters. -/
theorem afterRound_accepts {reach fuel count : Nat} (hnext : next.Accepts size reach k)
    (hfuel : 0 < fuel) (enough : low ≤ count) {p : Place} (within : p.Within size reach)
    (again : ∀ (q : Place) (m : Memory), q.Within size q.rest.length →
      q.rest.length < p.rest.length → some p.position ≠ some q.position →
        ((greedyLoop body low high next fuel (count + 1) (some p.position) q m).matched ↔
          q.rest ∈ remaining low high (count + 1) l * k)) :
    Next.Accepts size p.rest.length
      ⟨none, greedyLoop body low high next fuel (count + 1) (some p.position)⟩
      (afterRound low high count l k p.rest.length) := by
  refine Next.accepts_of_run fun q m hq => ?_
  have hp := within.size_eq
  have hsize := hq.size_eq
  rcases hq.le_reach.eq_or_lt with same | shorter
  · have hposition : q.position = p.position := by omega
    obtain ⟨fuel, rfl⟩ : ∃ n, fuel = n + 1 := ⟨fuel - 1, by omega⟩
    rw [greedyLoop_leaves hnext (by omega) m ⟨hsize, hq.le_reach.trans within.le_reach⟩
      (by simp [mayRepeat, hposition])]
    refine ⟨fun hk => .inl ⟨same, hk⟩, ?_⟩
    rintro (⟨-, hk⟩ | ⟨shorter, -⟩)
    · exact hk
    · exact absurd same shorter.ne
  · have hmoved : some p.position ≠ some q.position := fun h =>
      absurd (Option.some.inj h) (by omega)
    rw [again q m ⟨hsize, le_rfl⟩ shorter hmoved]
    refine ⟨fun h => .inr ⟨shorter, h⟩, ?_⟩
    rintro (⟨same, -⟩ | ⟨-, h⟩)
    · exact absurd same shorter.ne
    · exact h

include hbody limits in
/-- By induction on the fuel. Required rounds need fuel for each; after them every round but the
last takes a character. -/
theorem greedyLoop_accepts {reach fuel count : Nat} {last : Option Nat}
    (hnext : next.Accepts size reach k) (hfuel : low - count + reach + 1 < fuel)
    (hcount : ∀ most ∈ high, count ≤ most) (early : count < low → last = none) {p : Place}
    (m : Memory) (within : p.Within size reach) (moved : last ≠ some p.position) :
    (greedyLoop body low high next fuel count last p m).matched ↔
      p.rest ∈ remaining low high count l * k := by
  induction fuel generalizing reach count last p m with
  | zero => cases hfuel
  | succ fuel ih =>
    by_cases required : count < low
    · obtain rfl := early required
      have hagain : Next.Accepts size reach
          ⟨none, greedyLoop body low high next fuel (count + 1) none⟩
          (remaining low high (count + 1) l * k) :=
        Next.accepts_of_run fun q m hq =>
          ih hnext (by omega) (fun most hmost => required.trans_le (limits most hmost))
            (fun _ => rfl) m hq nofun
      unfold greedyLoop
      dsimp only
      rw [if_pos required, orElse_matched_iff, hbody true hagain p _ within,
        remaining_eq_mul required, mul_assoc]
      exact or_iff_left Bool.false_ne_true
    · have enough := Nat.not_lt.mp required
      by_cases below : ∀ most ∈ high, count < most
      · have hreach := within.le_reach
        have hagain : Next.Accepts size p.rest.length
            ⟨none, greedyLoop body low high next fuel (count + 1) (some p.position)⟩
            (afterRound low high count l k p.rest.length) :=
          afterRound_accepts hnext (by omega) enough within fun q m hq shorter hmoved =>
            ih (hnext.mono (by omega)) (by omega) below (fun h => absurd h (by omega)) m hq hmoved
        have hrepeat : mayRepeat high count last p = true := by
          cases high <;> simp_all [mayRepeat]
        unfold greedyLoop
        dsimp only
        rw [if_neg required, if_pos hrepeat, orElse_matched_iff, orElse_matched_iff,
          hbody true hagain p _ ⟨within.size_eq, le_rfl⟩, hnext.run p _ within,
          or_iff_left (b := (Memory.fail _).matched = true) Bool.false_ne_true,
          mem_remaining_mul_iff enough below]
      · simp only [not_forall, not_lt] at below
        obtain ⟨most, hmost, hle⟩ := below
        obtain rfl := Nat.le_antisymm hle (hcount most hmost)
        rw [Option.mem_def] at hmost
        subst hmost
        rw [remaining_full enough, one_mul]
        exact greedyLoop_leaves hnext enough m within (by simp [mayRepeat])

include hbody limits in
theorem loop_accepts {a : Expr} (ha : a.run size = body) :
    Run.Accepts size ((Expr.loop .greedy low high a).run size) (remaining low high 0 l) := by
  intro reach next k inLoop hnext p m within
  subst ha
  have hsize := within.size_eq
  refine greedyLoop_accepts hbody limits (hnext.mono within.le_reach) ?_
    (fun _ _ => Nat.zero_le _) (fun _ => rfl) m ⟨hsize, le_rfl⟩ nofun
  have hfuel := Nat.le_mul_self (size + 2)
  unfold loopFuel
  omega

end Loop

theorem one_accepts (test : CharTest) :
    Run.Accepts size ((Expr.one test).run size) test.language := by
  intro reach next k inLoop hnext p m within
  obtain ⟨position, before, rest⟩ := p
  unfold Expr.run Place.after?
  dsimp only
  rw [CharTest.mem_language_mul]
  cases rest with
  | nil => simp [Memory.fail]
  | cons c rest =>
    cases hc : test.accepts c with
    | true =>
      have hmoved := within.forward (n := 1) (Nat.succ_le_succ (Nat.zero_le _))
      simpa [hc] using hnext.run ⟨position + 1, c :: before, rest⟩ m hmoved
    | false => simp [hc, Memory.fail]

end Runs

namespace Expr

/-- An alternative is passed over only where it cannot match. -/
theorem mayStart_of_mem {e : Expr} {k : Language Char} {p : Place}
    (h : p.rest ∈ e.language * k) : e.mayStart p := by
  obtain ⟨u, hu, v, -, hrest⟩ := Language.mem_mul.mp h
  unfold mayStart
  split
  · rename_i test htest
    obtain ⟨c, u', rfl, hc⟩ := accepts_head_of_firstTest? htest hu
    rw [Bool.or_eq_true, Place.allows, ← hrest]
    exact .inr hc
  · rfl

/-- An expression and what is next are next for the expression before them. -/
theorem next_accepts {size reach : Nat} {next : Next} {k : Language Char} {inLoop : Bool} {e : Expr}
    (run : Try.Accepts size reach (e.run size inLoop next) (e.language * k))
    (hnext : next.Accepts size reach k) :
    Next.Accepts size reach ⟨e.firstPoint? next, e.run size inLoop next⟩ (e.language * k) := by
  refine ⟨run, fun n hn w hw => ?_⟩
  obtain ⟨u, hu, v, hv, rfl⟩ := Language.mem_mul.mp hw
  rw [Option.mem_def, firstPoint?] at hn
  split at hn
  · rename_i empty
    rw [language_of_isEmpty empty, Language.mem_one] at hu
    subst hu
    exact hnext.first n hn v hv
  · obtain ⟨test, htest, hcertain⟩ := Option.bind_eq_some_iff.mp hn
    obtain ⟨c, u', rfl, hc⟩ := accepts_head_of_firstTest? htest hu
    exact ⟨c, u' ++ v, rfl, CharTest.certain?_eq hcertain hc⟩

/-- Backtracking is sound and complete: by induction on the expression. -/
theorem run_accepts (size : Nat) {e : Expr} (regular : e.isRegular) :
    Run.Accepts size (e.run size) e.language := by
  induction e with
  | empty =>
    intro reach next k inLoop hnext p m within
    rw [language_empty, one_mul]
    exact hnext.run p m within
  | never =>
    intro reach next k inLoop hnext p m within
    rw [language_never, zero_mul]
    exact iff_of_false Bool.false_ne_true (Language.notMem_zero _)
  | one test => exact one_accepts test
  | seq a b iha ihb =>
    rw [isRegular, Bool.and_eq_true] at regular
    intro reach next k inLoop hnext p m within
    rw [language_seq, mul_assoc]
    exact iha regular.1 inLoop (next_accepts (ihb regular.2 inLoop hnext) hnext) p m within
  | alt a b iha ihb =>
    rw [isRegular, Bool.and_eq_true] at regular
    intro reach next k inLoop hnext p m within
    have hfirst := iha regular.1 inLoop hnext.outside p (m.reach p) within
    have hsecond (m : Memory) := ihb regular.2 inLoop hnext.outside p m within
    rw [language_alt, add_mul, Language.mem_add]
    unfold run
    split
    · dsimp only
      rw [orElse_matched_iff, hfirst, hsecond]
    · rename_i hstart
      rw [hsecond, or_iff_right fun h => hstart (mayStart_of_mem h)]
  | many greed low high test =>
    cases greed with
    | greedy => exact many_accepts low high test
    | _ => cases regular
  | loop greed low high a ih =>
    cases greed with
    | greedy =>
      rw [isRegular, Bool.and_eq_true] at regular
      refine loop_accepts (ih regular.2) (fun most hmost => ?_) rfl
      rw [Option.mem_def] at hmost
      subst hmost
      simpa using regular.1
    | _ => cases regular
  | _ => cases regular

end Expr

end JsonSchema.Pattern
