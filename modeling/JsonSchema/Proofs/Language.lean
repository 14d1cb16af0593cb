import Mathlib.Computability.Language
import JsonSchema.Pattern.Matcher

/-! The languages of expressions. An expression that is put together from characters by
sequences, alternatives and greedy repetitions stands for the texts that it matches from end to
end. -/
namespace JsonSchema.Pattern

/-- The repetitions of a text of a language that are still to come after so many, within
limits. -/
def remaining (low : Nat) (high : Option Nat) (count : Nat) (l : Language Char) : Language Char :=
  {w | ∃ n, low ≤ count + n ∧ (∀ most ∈ high, count + n ≤ most) ∧ w ∈ l ^ n}

section Remaining

variable {low count : Nat} {high : Option Nat} {l : Language Char}

/-- One repetition is taken off while more are required. -/
theorem remaining_eq_mul (required : count < low) :
    remaining low high count l = l * remaining low high (count + 1) l := by
  ext w
  rw [Language.mem_mul]
  constructor
  · rintro ⟨n, hlow, hhigh, hw⟩
    obtain ⟨n, rfl⟩ : ∃ k, n = k + 1 := ⟨n - 1, by omega⟩
    rw [pow_succ', Language.mem_mul] at hw
    obtain ⟨u, hu, v, hv, rfl⟩ := hw
    refine ⟨u, hu, v, ⟨n, by omega, fun most hmost => ?_, hv⟩, rfl⟩
    have := hhigh most hmost
    omega
  · rintro ⟨u, hu, v, ⟨n, hlow, hhigh, hv⟩, rfl⟩
    refine ⟨n + 1, by omega, fun most hmost => ?_, ?_⟩
    · have := hhigh most hmost
      omega
    · rw [pow_succ', Language.mem_mul]
      exact ⟨u, hu, v, hv, rfl⟩

theorem remaining_full {most : Nat} (enough : low ≤ most) :
    remaining low (some most) most l = 1 := by
  ext w
  rw [Language.mem_one]
  constructor
  · rintro ⟨n, -, hhigh, hw⟩
    obtain rfl : n = 0 := by
      have := hhigh most rfl
      omega
    simpa using hw
  · rintro rfl
    exact ⟨0, enough, fun most' hmost => by simp_all, Language.nil_mem_one⟩

/-- As many repetitions as are required, and no more. -/
theorem remaining_exactly (n : Nat) : remaining n (some n) 0 l = l ^ n := by
  ext w
  constructor
  · rintro ⟨m, hlow, hhigh, hw⟩
    obtain rfl : m = n := by
      have := hhigh n rfl
      omega
    exact hw
  · intro hw
    exact ⟨n, by omega, fun most hmost => by simp_all, hw⟩

theorem remaining_optional : remaining 0 (some 1) 0 l = 1 + l := by
  ext w
  rw [Language.mem_add]
  constructor
  · rintro ⟨n, -, hhigh, hw⟩
    have hn := hhigh 1 rfl
    obtain rfl | rfl : n = 0 ∨ n = 1 := by omega
    · exact .inl hw
    · exact .inr (by rwa [pow_one] at hw)
  · rintro (hw | hw)
    · exact ⟨0, le_rfl, fun _ _ => Nat.zero_le _, hw⟩
    · exact ⟨1, Nat.zero_le _, fun most hmost => (Option.some.inj hmost).le, by rwa [pow_one]⟩

theorem nil_mem_remaining (enough : low ≤ count) (within : ∀ most ∈ high, count ≤ most) :
    [] ∈ remaining low high count l :=
  ⟨0, enough, within, Language.nil_mem_one⟩

theorem append_mem_remaining (enough : low ≤ count) {u v : List Char} (hu : u ∈ l)
    (hv : v ∈ remaining low high (count + 1) l) : u ++ v ∈ remaining low high count l := by
  obtain ⟨n, -, hhigh, hv⟩ := hv
  refine ⟨n + 1, by omega, fun most hmost => ?_, ?_⟩
  · have := hhigh most hmost
    omega
  · rw [pow_succ', Language.mem_mul]
    exact ⟨u, hu, v, hv, rfl⟩

/-- Repetitions of the empty text can be left out where none is required any more. -/
theorem remaining_cases (enough : low ≤ count) {w : List Char}
    (h : w ∈ remaining low high count l) :
    w = [] ∨ (∀ most ∈ high, count < most) ∧
      ∃ u ∈ l, u ≠ [] ∧ ∃ v ∈ remaining low high (count + 1) l, w = u ++ v := by
  obtain ⟨n, -, hhigh, hw⟩ := h
  induction n with
  | zero => exact .inl (by simpa using hw)
  | succ n ih =>
    rw [pow_succ', Language.mem_mul] at hw
    obtain ⟨u, hu, v, hv, rfl⟩ := hw
    have hbelow (most : Nat) (hmost : most ∈ high) : count + n < most := by
      have := hhigh most hmost
      omega
    by_cases empty : u = []
    · subst empty
      exact ih (fun most hmost => (hbelow most hmost).le) hv
    · refine .inr ⟨fun most hmost => ?_, u, hu, empty, v, ⟨n, by omega, fun most hmost => ?_, hv⟩,
        rfl⟩
      · have := hbelow most hmost
        omega
      · have := hbelow most hmost
        omega

end Remaining

theorem mem_mul_sign_mul {sign : Char} {l k : Language Char} {w : List Char} :
    w ∈ l * ({[sign]} * k) ↔ ∃ u ∈ l, ∃ v ∈ k, w = u ++ sign :: v := by
  rw [Language.mem_mul]
  constructor
  · rintro ⟨u, hu, v, hv, rfl⟩
    obtain ⟨_, rfl, v, hk, rfl⟩ := Language.mem_mul.mp hv
    exact ⟨u, hu, v, hk, rfl⟩
  · rintro ⟨u, hu, v, hk, rfl⟩
    exact ⟨u, hu, sign :: v, Language.mem_mul.mpr ⟨[sign], rfl, v, hk, rfl⟩, rfl⟩

/-- So many parts with a sign between them. -/
def IsJoined (sign : Char) (IsPart : List Char → Prop) (n : Nat) (cs : List Char) : Prop :=
  ∃ parts : List (List Char), parts.length = n ∧ (∀ part ∈ parts, IsPart part) ∧
    cs = [sign].intercalate parts

theorem mem_pow_mul_iff {sign : Char} {l : Language Char} {n : Nat} {w : List Char} :
    w ∈ (l * {[sign]}) ^ n * l ↔ IsJoined sign (· ∈ l) (n + 1) w := by
  induction n generalizing w with
  | zero =>
    rw [pow_zero, one_mul]
    constructor
    · exact fun h => ⟨[w], rfl, by simpa using h, (List.intercalate_singleton).symm⟩
    · rintro ⟨parts, hlength, hparts, rfl⟩
      obtain ⟨part, rfl⟩ := List.length_eq_one_iff.mp hlength
      rw [List.intercalate_singleton]
      exact hparts part List.mem_cons_self
  | succ n ih =>
    rw [pow_succ', mul_assoc, mul_assoc, mem_mul_sign_mul]
    constructor
    · rintro ⟨u, hu, v, hv, rfl⟩
      obtain ⟨parts, hlength, hparts, rfl⟩ := ih.mp hv
      refine ⟨u :: parts, by rw [List.length_cons, hlength],
        List.forall_mem_cons.mpr ⟨hu, hparts⟩, ?_⟩
      rw [List.intercalate_cons_of_ne_nil (List.ne_nil_of_length_eq_add_one hlength),
        List.append_assoc]
      rfl
    · rintro ⟨parts, hlength, hparts, rfl⟩
      obtain ⟨part, rest, rfl⟩ := List.exists_cons_of_length_eq_add_one hlength
      obtain ⟨hpart, hrest⟩ := List.forall_mem_cons.mp hparts
      rw [List.length_cons, Nat.add_right_cancel_iff] at hlength
      refine ⟨part, hpart, [sign].intercalate rest, ih.mpr ⟨rest, hlength, hrest, rfl⟩, ?_⟩
      rw [List.intercalate_cons_of_ne_nil (List.ne_nil_of_length_eq_add_one hlength),
        List.append_assoc]
      rfl

/-- A character of joined parts stands in one of them or joins them. -/
theorem IsJoined.mem {sign : Char} {IsPart : List Char → Prop} {n : Nat} {cs : List Char}
    (h : IsJoined sign IsPart n cs) {c : Char} (hc : c ∈ cs) :
    c = sign ∨ ∃ part, IsPart part ∧ c ∈ part := by
  obtain ⟨parts, -, hparts, rfl⟩ := h
  induction parts with
  | nil => simp at hc
  | cons part rest ih =>
    obtain ⟨hpart, hrest⟩ := List.forall_mem_cons.mp hparts
    cases rest with
    | nil =>
      rw [List.intercalate_singleton] at hc
      exact .inr ⟨part, hpart, hc⟩
    | cons second rest =>
      rw [List.intercalate_cons_cons, List.mem_append, List.mem_append, List.mem_singleton] at hc
      rcases hc with (hc | hc) | hc
      · exact .inr ⟨part, hpart, hc⟩
      · exact .inl hc
      · exact ih hrest hc

theorem IsJoined.notMem {sign : Char} {IsPart : List Char → Prop} {n : Nat} {cs : List Char}
    (h : IsJoined sign IsPart n cs) {c : Char} (other : c ≠ sign)
    (parts : ∀ part, IsPart part → c ∉ part) : c ∉ cs := by
  intro hc
  rcases h.mem hc with hsign | ⟨part, hpart, hmem⟩
  · exact other hsign
  · exact parts part hpart hmem

namespace CharTest

def language (test : CharTest) : Language Char :=
  {w | ∃ c, test.accepts c ∧ w = [c]}

/-- The texts of a length within limits of which every character passes a test. -/
def runs (test : CharTest) (low : Nat) (high : Option Nat) : Language Char :=
  {w | low ≤ w.length ∧ (∀ most ∈ high, w.length ≤ most) ∧ ∀ c ∈ w, test.accepts c}

theorem mem_language_mul {test : CharTest} {l : Language Char} {w : List Char} :
    w ∈ test.language * l ↔ ∃ c rest, w = c :: rest ∧ test.accepts c ∧ rest ∈ l := by
  rw [Language.mem_mul]
  constructor
  · rintro ⟨_, ⟨c, hc, rfl⟩, rest, hrest, rfl⟩
    exact ⟨c, rest, rfl, hc, hrest⟩
  · rintro ⟨c, rest, rfl, hc, hrest⟩
    exact ⟨[c], ⟨c, hc, rfl⟩, rest, hrest, rfl⟩

@[simp] theorem nil_mem_language_mul {test : CharTest} {l : Language Char} :
    [] ∈ test.language * l ↔ False := by
  simp [mem_language_mul]

@[simp] theorem cons_mem_language_mul {test : CharTest} {l : Language Char} {c : Char}
    {rest : List Char} : c :: rest ∈ test.language * l ↔ test.accepts c ∧ rest ∈ l := by
  simp [mem_language_mul]

@[simp] theorem nil_mem_language {test : CharTest} : [] ∈ test.language ↔ False := by
  rw [← mul_one test.language, nil_mem_language_mul]

@[simp] theorem cons_mem_language {test : CharTest} {c : Char} {rest : List Char} :
    c :: rest ∈ test.language ↔ test.accepts c ∧ rest = [] := by
  rw [← mul_one test.language, cons_mem_language_mul, Language.mem_one]

/-- A character that may be missing. -/
theorem runs_optional (test : CharTest) : test.runs 0 (some 1) = 1 + test.language := by
  ext w
  rw [Language.mem_add, Language.mem_one]
  constructor
  · rintro ⟨-, hhigh, haccepts⟩
    match w, hhigh 1 rfl with
    | [], _ => exact .inl rfl
    | [c], _ => exact .inr ⟨c, haccepts c List.mem_cons_self, rfl⟩
    | _ :: _ :: _, hlength =>
      simp only [List.length_cons] at hlength
      omega
  · rintro (rfl | ⟨c, hc, rfl⟩)
    · exact ⟨le_rfl, fun _ _ => Nat.zero_le _, nofun⟩
    · exact ⟨Nat.zero_le _, fun most hmost => (Option.some.inj hmost).le, by simpa using hc⟩

theorem certain?_eq {test : CharTest} {n : Nat} (h : test.certain? = some n) {c : Char}
    (accepted : test.accepts c) : c.toNat = n := by
  unfold certain? at h
  split at h <;> cases h
  change (decide (c.toNat = n) != false) = true at accepted
  simpa using accepted

/-- The test for one certain character. -/
def only (c : Char) : CharTest :=
  .point .none c.toNat false

theorem only_accepts {c d : Char} : (only c).accepts d ↔ d.toNat = c.toNat := by
  change (decide (d.toNat = c.toNat) != false) = true ↔ _
  simp

theorem language_only (c : Char) : (only c).language = {[c]} := by
  ext w
  constructor
  · rintro ⟨d, hd, rfl⟩
    rw [Char.toNat_inj.mp (only_accepts.mp hd)]
    rfl
  · rintro rfl
    exact ⟨c, only_accepts.mpr rfl, rfl⟩

end CharTest

namespace Expr

/-- Put together from characters by sequences, alternatives and greedy repetitions, with
limits that some number of repetitions keeps. -/
def isRegular : Expr → Bool
  | .empty | .never | .one _ | .many .greedy .. => true
  | .seq a b | .alt a b => a.isRegular && b.isRegular
  | .loop .greedy low high a => high.all (low ≤ ·) && a.isRegular
  | _ => false

/-- The texts that a regular expression matches from end to end; any other expression
stands for none here. -/
def language : Expr → Language Char
  | .empty => 1
  | .one test => test.language
  | .seq a b => a.language * b.language
  | .alt a b => a.language + b.language
  | .many _ low high test => test.runs low high
  | .loop _ low high a => remaining low high 0 a.language
  | _ => 0

section Equations

variable (a b : Expr) (test : CharTest) (greed : Greed) (low : Nat) (high : Option Nat)

@[simp] theorem language_empty : Expr.empty.language = 1 := rfl

@[simp] theorem language_never : never.language = 0 := rfl

@[simp] theorem language_one : (one test).language = test.language := rfl

@[simp] theorem language_seq : (seq a b).language = a.language * b.language := rfl

@[simp] theorem language_alt : (alt a b).language = a.language + b.language := rfl

@[simp] theorem language_many : (many greed low high test).language = test.runs low high := rfl

@[simp] theorem language_loop :
    (loop greed low high a).language = remaining low high 0 a.language := rfl

end Equations

theorem language_of_isEmpty {e : Expr} (h : e.isEmpty) : e.language = 1 := by
  induction e with
  | empty => rfl
  | seq a b iha ihb =>
    rw [isEmpty, Bool.and_eq_true] at h
    rw [language_seq, iha h.1, ihb h.2, one_mul]
  | _ => cases h

/-- What an expression begins with, as far as it is known, every text of its language does. -/
theorem accepts_head_of_firstTest? {e : Expr} {test : CharTest} (h : e.firstTest? = some test)
    {w : List Char} (hw : w ∈ e.language) : ∃ c rest, w = c :: rest ∧ test.accepts c := by
  induction e generalizing w with
  | one test' =>
    cases h
    obtain ⟨c, hc, rfl⟩ := hw
    exact ⟨c, [], rfl, hc⟩
  | seq a b iha ihb =>
    obtain ⟨u, hu, v, hv, rfl⟩ := Language.mem_mul.mp hw
    rw [firstTest?] at h
    split at h
    · rename_i empty
      rw [language_of_isEmpty empty, Language.mem_one] at hu
      subst hu
      exact ihb h hv
    · obtain ⟨c, rest, rfl, hc⟩ := iha h hu
      exact ⟨c, rest ++ v, rfl, hc⟩
  | _ => cases h

/-- The fewest characters in a text of the language. -/
def least : Expr → Nat
  | .one _ => 1
  | .seq a b => a.least + b.least
  | .alt a b => if b = .never then a.least else min a.least b.least
  | .many _ low _ _ => low
  | .loop _ low _ a => low * a.least
  | _ => 0

theorem least_mul_le_of_mem_pow {l : Language Char} {k n : Nat}
    (h : ∀ w ∈ l, k ≤ w.length) {w : List Char} (hw : w ∈ l ^ n) : n * k ≤ w.length := by
  induction n generalizing w with
  | zero => simp
  | succ n ih =>
    rw [pow_succ', Language.mem_mul] at hw
    obtain ⟨u, hu, v, hv, rfl⟩ := hw
    have hfirst := h u hu
    have hrest := ih hv
    rw [Nat.succ_mul, List.length_append]
    omega

theorem least_le_length {e : Expr} {w : List Char} (hw : w ∈ e.language) : e.least ≤ w.length := by
  induction e generalizing w with
  | one test =>
    obtain ⟨c, -, rfl⟩ := hw
    exact le_rfl
  | seq a b iha ihb =>
    obtain ⟨u, hu, v, hv, rfl⟩ := Language.mem_mul.mp hw
    rw [least, List.length_append]
    exact Nat.add_le_add (iha hu) (ihb hv)
  | alt a b iha ihb =>
    rw [language_alt, Language.mem_add] at hw
    rw [least]
    split
    · rename_i hnever
      rcases hw with hw | hw
      · exact iha hw
      · rw [hnever] at hw
        exact absurd hw (Language.notMem_zero w)
    · rcases hw with hw | hw
      · exact (min_le_left _ _).trans (iha hw)
      · exact (min_le_right _ _).trans (ihb hw)
  | many greed low high test => exact hw.1
  | loop greed low high a ih =>
    obtain ⟨n, hlow, -, hw⟩ := hw
    rw [Nat.zero_add] at hlow
    exact (Nat.mul_le_mul_right a.least hlow).trans
      (least_mul_le_of_mem_pow (fun _ hu => ih hu) hw)
  | _ => exact Nat.zero_le _

end Expr

end JsonSchema.Pattern
