import Mathlib
import JsonSchema.Proofs.WholeText

/-! Host names and slugs. A label begins with a letter and ends with a letter or a digit, with
hyphens between them. Host names are labels with points between them; a slug is a label or
nothing, since labels that follow one another are one label. -/
namespace JsonSchema.Format

open Pattern Expr

/-- ASCII letters, digits and hyphens, a letter first and no hyphen last. -/
structure IsLabel (cs : List Char) : Prop where
  first : ∃ c ∈ cs.head?, c.isAlpha
  last : ∃ c ∈ cs.getLast?, c.isAlphanum
  signs : ∀ c ∈ cs, c.isAlphanum ∨ c = '-'

def IsHostName (cs : List Char) : Prop :=
  ∃ n, IsJoined '.' IsLabel (n + 1) cs

def IsSlug (cs : List Char) : Prop :=
  cs = [] ∨ IsLabel cs

theorem IsLabel.append {cs ds : List Char} (h : IsLabel cs) (h' : IsLabel ds) :
    IsLabel (cs ++ ds) where
  first := by
    obtain ⟨c, hc, hfirst⟩ := h.first
    exact ⟨c, List.mem_head?_append_of_mem_head? hc, hfirst⟩
  last := by
    obtain ⟨c, hc, hlast⟩ := h'.last
    exact ⟨c, List.mem_getLast?_append_of_mem_getLast? hc, hlast⟩
  signs := List.forall_mem_append.mpr ⟨h.signs, h'.signs⟩

section Tests

def letter : CharTest :=
  .set .none false [.range 'a'.toNat 'z'.toNat, .range 'A'.toNat 'Z'.toNat] false

def letterOrDigit : CharTest :=
  .set .none false
    [.range 'a'.toNat 'z'.toNat, .range 'A'.toNat 'Z'.toNat, .range '0'.toNat '9'.toNat] false

def labelSign : CharTest :=
  .set .none false
    [.range 'a'.toNat 'z'.toNat, .range 'A'.toNat 'Z'.toNat, .range '0'.toNat '9'.toNat,
      .point '-'.toNat] false

theorem isAlpha_iff (c : Char) :
    c.isAlpha ↔ 97 ≤ c.toNat ∧ c.toNat ≤ 122 ∨ 65 ≤ c.toNat ∧ c.toNat ≤ 90 := by
  simp only [Char.isAlpha, Char.isUpper, Char.isLower, Bool.or_eq_true, Bool.and_eq_true,
    decide_eq_true_eq]
  exact or_comm

theorem letter_accepts (c : Char) : letter.accepts c ↔ c.isAlpha := by
  rw [isAlpha_iff]
  simp [letter, CharTest.accepts, Member.holds]

theorem letterOrDigit_accepts (c : Char) : letterOrDigit.accepts c ↔ c.isAlphanum := by
  rw [Char.isAlphanum, Bool.or_eq_true, isAlpha_iff, Char.isDigit_iff_toNat]
  simp [letterOrDigit, CharTest.accepts, Member.holds, or_assoc]

theorem labelSign_accepts (c : Char) : labelSign.accepts c ↔ c.isAlphanum ∨ c = '-' := by
  rw [Char.isAlphanum, Bool.or_eq_true, isAlpha_iff, Char.isDigit_iff_toNat, ← Char.toNat_inj]
  simp [labelSign, CharTest.accepts, Member.holds, or_assoc]

end Tests

/-- What may follow the first letter of a label. -/
def labelRest : Expr :=
  .alt .empty
    (.alt (.seq (.many .greedy 0 none labelSign) (.seq (.one letterOrDigit) .empty)) .never)

theorem mem_labelRest_iff {w : List Char} :
    w ∈ labelRest.language ↔
      w = [] ∨ ∃ inner c, w = inner ++ [c] ∧ (∀ d ∈ inner, d.isAlphanum ∨ d = '-') ∧
        c.isAlphanum := by
  simp only [labelRest, language_alt, language_seq, language_many, language_one, language_empty,
    language_never, mul_one, add_zero]
  rw [Language.mem_add, Language.mem_one, Language.mem_mul]
  refine or_congr_right ?_
  constructor
  · rintro ⟨inner, ⟨-, -, hinner⟩, _, ⟨c, hc, rfl⟩, rfl⟩
    exact ⟨inner, c, rfl, fun d hd => (labelSign_accepts d).mp (hinner d hd),
      (letterOrDigit_accepts c).mp hc⟩
  · rintro ⟨inner, c, rfl, hinner, hc⟩
    exact ⟨inner, ⟨Nat.zero_le _, nofun, fun d hd => (labelSign_accepts d).mpr (hinner d hd)⟩,
      [c], ⟨c, (letterOrDigit_accepts c).mpr hc, rfl⟩, rfl⟩

def labels : Language Char :=
  {w | IsLabel w}

theorem label_language : letter.language * labelRest.language = labels := by
  ext w
  rw [CharTest.mem_language_mul]
  constructor
  · rintro ⟨c, rest, rfl, hc, hrest⟩
    rw [letter_accepts] at hc
    have hsign : c.isAlphanum := by rw [Char.isAlphanum, hc, Bool.true_or]
    rcases mem_labelRest_iff.mp hrest with rfl | ⟨inner, d, rfl, hinner, hd⟩
    · exact ⟨⟨c, rfl, hc⟩, ⟨c, rfl, hsign⟩, by simpa using .inl hsign⟩
    · refine ⟨⟨c, rfl, hc⟩, ⟨d, ?_, hd⟩, ?_⟩
      · rw [← List.cons_append, List.getLast?_concat, Option.mem_some]
      · simp only [List.forall_mem_cons, List.forall_mem_append]
        exact ⟨.inl hsign, hinner, .inl hd, nofun⟩
  · rintro ⟨⟨c, hc, hfirst⟩, ⟨d, hd, hlast⟩, hsigns⟩
    obtain ⟨rest, rfl⟩ := List.head?_eq_some_iff.mp hc
    refine ⟨c, rest, rfl, (letter_accepts c).mpr hfirst, mem_labelRest_iff.mpr ?_⟩
    rcases List.eq_nil_or_concat rest with rfl | ⟨inner, e, rfl⟩
    · exact .inl rfl
    · rw [List.concat_eq_append, ← List.cons_append, List.getLast?_concat, Option.mem_some] at hd
      subst hd
      refine .inr ⟨inner, e, List.concat_eq_append, fun c' hc' => hsigns c' ?_, hlast⟩
      simp [hc']

theorem isSlug_of_mem_pow {n : Nat} {w : List Char} (hw : w ∈ labels ^ n) : IsSlug w := by
  induction n generalizing w with
  | zero => exact .inl hw
  | succ n ih =>
    rw [pow_succ', Language.mem_mul] at hw
    obtain ⟨u, hu, v, hv, rfl⟩ := hw
    rcases ih hv with rfl | hlabel
    · exact .inr (by rwa [List.append_nil])
    · exact .inr (IsLabel.append hu hlabel)

def slugParts : List Expr :=
  [.loop .greedy 0 none (.seq (.one letter) (.seq labelRest .empty))]

theorem slug_language (w : List Char) : w ∈ languageAll slugParts ↔ IsSlug w := by
  have hlabel : (Expr.seq (.one letter) (.seq labelRest .empty)).language = labels := by
    simp [← label_language]
  rw [slugParts, languageAll_cons, languageAll_nil, mul_one, language_loop, hlabel]
  constructor
  · rintro ⟨n, -, -, hw⟩
    exact isSlug_of_mem_pow hw
  · rintro (rfl | hw)
    · exact ⟨0, le_rfl, nofun, Language.nil_mem_one⟩
    · refine ⟨1, Nat.zero_le _, nofun, ?_⟩
      rw [pow_one]
      exact hw

def hostNameParts : List Expr :=
  [.loop .greedy 0 none
    (.seq (.one letter) (.seq labelRest (.seq (.one (.only '.')) .empty))), .one letter, labelRest]

theorem hostName_language (w : List Char) : w ∈ languageAll hostNameParts ↔ IsHostName w := by
  have hround : (Expr.seq (.one letter) (.seq labelRest
      (.seq (.one (.only '.')) .empty))).language = labels * {['.']} := by
    simp [← label_language, ← CharTest.language_only, mul_assoc]
  rw [hostNameParts, languageAll_cons, languageAll_cons, languageAll_cons, languageAll_nil,
    mul_one, language_loop, language_one, hround, label_language, Language.mem_mul]
  constructor
  · rintro ⟨u, ⟨n, -, -, hu⟩, v, hv, rfl⟩
    exact ⟨n, mem_pow_mul_iff.mp (Language.append_mem_mul hu hv)⟩
  · rintro ⟨n, hw⟩
    obtain ⟨u, hu, v, hv, rfl⟩ := Language.mem_mul.mp (mem_pow_mul_iff.mpr hw)
    exact ⟨u, ⟨n, Nat.zero_le _, nofun, hu⟩, v, hv, rfl⟩

theorem ofText?_hostNameText :
    ofText? hostNameText = .ok ⟨whole hostNameParts, 1, ⟨0, none⟩⟩ := by
  cbv

theorem ofText?_slugText : ofText? slugText = .ok ⟨whole slugParts, 0, ⟨0, none⟩⟩ := by
  cbv

theorem IsLabel.newline_notMem {cs : List Char} (h : IsLabel cs) : '\n' ∉ cs :=
  fun hmem => by simpa using h.signs '\n' hmem

theorem host_names_and_slugs :
    Decides "host-name" IsHostName ∧ Decides "slug" IsSlug ∧
      ∀ cs, ¬ IsHostName (cs ++ ['\n']) ∧ ¬ IsSlug (cs ++ ['\n']) := by
  refine ⟨?_, ?_, fun cs => ⟨?_, ?_⟩⟩
  · exact decides_of_whole rfl ofText?_hostNameText (by decide) (by decide) (by decide)
      hostName_language
  · exact decides_of_whole rfl ofText?_slugText (by decide) (by decide) (by decide) slug_language
  · rintro ⟨n, h⟩
    have hnone : '\n' ∉ cs ++ ['\n'] :=
      h.notMem (by decide) fun _ hlabel => hlabel.newline_notMem
    exact hnone (List.mem_append_right cs List.mem_cons_self)
  · rintro (h | h)
    · simp at h
    · exact h.newline_notMem (List.mem_append_right cs List.mem_cons_self)

end JsonSchema.Format
