import JsonSchema.Number.Decimal
import Mathlib.Tactic.Ring

/-! A finite magnitude is determined by its rank, and rounding a quotient depends only on
its value: a quotient that is a magnitude is rounded to that one. -/
namespace JsonSchema.Double

theorem denominator_pos : 0 < denominator := by
  unfold denominator
  generalize 1074 = n
  exact Nat.two_pow_pos n

/-- The scale at which a quotient has a significand of 53 bits, or the least one when the
quotient is too small for that. -/
structure Fits (num den s : Nat) : Prop where
  below : num < den * 2 ^ (s + 53)
  full : s = 0 ∨ den * 2 ^ (s + 52) ≤ num

namespace Fits

variable {num den s t : Nat}

theorem le (h : Fits num den s) (h' : Fits num den t) : s ≤ t := by
  by_contra hlt
  have hfull := h.full.resolve_left (by omega)
  have hpow : 2 ^ (t + 53) ≤ 2 ^ (s + 52) := Nat.pow_le_pow_right (by decide) (by omega)
  have hscaled := Nat.mul_le_mul_left den hpow
  have hbelow := h'.below
  omega

/-- There is only one such scale. -/
theorem unique (h : Fits num den s) (h' : Fits num den t) : s = t :=
  Nat.le_antisymm (h.le h') (h'.le h)

theorem mul_right (h : Fits num den s) {k : Nat} (hk : 0 < k) : Fits (num * k) (den * k) s where
  below := by
    have hbelow := Nat.mul_lt_mul_of_pos_right h.below hk
    rwa [Nat.mul_right_comm] at hbelow
  full := by
    rcases h.full with hzero | hfull
    · exact .inl hzero
    · have hscaled := Nat.mul_le_mul_right k hfull
      rw [Nat.mul_right_comm] at hscaled
      exact .inr hscaled

end Fits

theorem scaleOfRatio_fits {num den : Nat} (hnum : 0 < num) (hden : 0 < den) :
    Fits (num * denominator) den (scaleOfRatio num den) := by
  have hshifted : num * denominator ≠ 0 := (Nat.mul_pos hnum denominator_pos).ne'
  unfold scaleOfRatio
  generalize num * denominator = shifted at hshifted ⊢
  dsimp only
  change Fits shifted den (if _ ∧ shifted < den * 2 ^ (shifted.log2 - den.log2 - 52 + 52) then _ else _)
  have hlow : 2 ^ shifted.log2 ≤ shifted := Nat.log2_self_le hshifted
  have hhigh : shifted < 2 ^ (shifted.log2 + 1) := Nat.lt_log2_self
  have hdenLow : 2 ^ den.log2 ≤ den := Nat.log2_self_le hden.ne'
  have hdenHigh : den < 2 ^ (den.log2 + 1) := Nat.lt_log2_self
  generalize shifted.log2 = a at *
  generalize den.log2 = b at *
  -- The two logarithms are off by less than one each, so the guess is at most one too high.
  have hbelow : shifted < den * 2 ^ (a - b - 52 + 53) := by
    calc shifted < 2 ^ (a + 1) := hhigh
      _ ≤ 2 ^ (b + (a - b - 52 + 53)) := Nat.pow_le_pow_right (by decide) (by omega)
      _ = 2 ^ b * 2 ^ (a - b - 52 + 53) := Nat.pow_add ..
      _ ≤ den * 2 ^ (a - b - 52 + 53) := Nat.mul_le_mul_right _ hdenLow
  split
  · rename_i hguess
    refine ⟨?_, ?_⟩
    · rw [show a - b - 52 - 1 + 53 = a - b - 52 + 52 by omega]
      exact hguess.2
    · right
      calc den * 2 ^ (a - b - 52 - 1 + 52)
          ≤ 2 ^ (b + 1) * 2 ^ (a - b - 52 - 1 + 52) := Nat.mul_le_mul_right _ hdenHigh.le
        _ = 2 ^ (b + 1 + (a - b - 52 - 1 + 52)) := (Nat.pow_add ..).symm
        _ ≤ 2 ^ a := Nat.pow_le_pow_right (by decide) (by omega)
        _ ≤ shifted := hlow
  · rename_i hguess
    refine ⟨hbelow, ?_⟩
    by_cases hzero : a - b - 52 = 0
    · exact .inl hzero
    · exact .inr (Nat.le_of_not_lt fun hless => hguess ⟨hzero, hless⟩)

theorem divNearest_mul_right (num den : Nat) {k : Nat} (hk : 0 < k) :
    divNearest (num * k) (den * k) = divNearest num den := by
  have hbelow : 2 * (num % den * k) < den * k ↔ 2 * (num % den) < den := by
    rw [← Nat.mul_assoc, Nat.mul_lt_mul_right hk]
  have habove : den * k < 2 * (num % den * k) ↔ den < 2 * (num % den) := by
    rw [← Nat.mul_assoc, Nat.mul_lt_mul_right hk]
  simp only [divNearest, Nat.mul_div_mul_right _ _ hk, Nat.mul_mod_mul_right, hbelow, habove]

theorem divNearest_mul_self (n : Nat) {den : Nat} (hden : 0 < den) :
    divNearest (n * den) den = n := by
  simp [divNearest, Nat.mul_div_cancel _ hden, hden]

theorem rankOfRatio_mul_right {num den k : Nat} (hnum : 0 < num) (hden : 0 < den) (hk : 0 < k) :
    rankOfRatio (num * k) (den * k) = rankOfRatio num den := by
  have hscale : scaleOfRatio (num * k) (den * k) = scaleOfRatio num den := by
    refine (scaleOfRatio_fits (Nat.mul_pos hnum hk) (Nat.mul_pos hden hk)).unique ?_
    rw [Nat.mul_right_comm]
    exact (scaleOfRatio_fits hnum hden).mul_right hk
  simp only [rankOfRatio, hscale]
  rw [Nat.mul_right_comm num, Nat.mul_right_comm den, divNearest_mul_right _ _ hk]

/-- Equal quotients are rounded alike. -/
theorem rankOfRatio_congr {num den num' den' : Nat} (hnum : 0 < num) (hden : 0 < den)
    (hden' : 0 < den') (h : num * den' = num' * den) :
    rankOfRatio num den = rankOfRatio num' den' := by
  have hnum' : 0 < num' := Nat.pos_of_mul_pos_right (h ▸ Nat.mul_pos hnum hden')
  rw [← rankOfRatio_mul_right hnum hden hden', h, Nat.mul_comm den,
    rankOfRatio_mul_right hnum' hden' hden]

/-- The ranks of a binade count its significands. -/
theorem scale_mul_binade_add_significand (rank : Nat) :
    scale rank * binade + significand rank = rank := by
  have hsplit := Nat.div_add_mod rank binade
  unfold scale significand
  split
  · rename_i hzero
    simp [hzero]
  · rename_i hpos
    obtain ⟨e, he⟩ := Nat.exists_eq_succ_of_ne_zero hpos
    rw [he] at hsplit ⊢
    rw [Nat.succ_sub_one, ← Nat.add_assoc, ← Nat.succ_mul, Nat.mul_comm]
    exact hsplit

theorem numerator_fits (rank : Nat) : Fits (numerator rank) 1 (scale rank) := by
  have hbinade : binade = 2 ^ 52 := rfl
  have hmod : rank % binade < binade := Nat.mod_lt _ (Nat.two_pow_pos _)
  have hlow : scale rank = 0 ∨ 2 ^ 52 ≤ significand rank := by
    unfold scale significand
    split
    · exact .inl (by omega)
    · exact .inr (by omega)
  have hhigh : significand rank < 2 ^ 53 := by
    unfold significand
    split
    · have := Nat.div_add_mod rank binade
      simp_all
      omega
    · omega
  have hnum : numerator rank = significand rank * 2 ^ scale rank := rfl
  rw [hnum]
  refine ⟨?_, hlow.imp id fun hlow => ?_⟩
  · rw [Nat.one_mul, Nat.add_comm, Nat.pow_add]
    exact Nat.mul_lt_mul_of_pos_right hhigh (Nat.two_pow_pos _)
  · rw [Nat.one_mul, Nat.add_comm, Nat.pow_add]
    exact Nat.mul_le_mul_right _ hlow

/-- Different ranks are different magnitudes. -/
theorem numerator_injective {rank other : Nat} (h : numerator rank = numerator other) :
    rank = other := by
  have hscale : scale rank = scale other :=
    (numerator_fits rank).unique (h ▸ numerator_fits other)
  have hsignificand : significand rank = significand other := by
    unfold numerator at h
    rw [hscale] at h
    exact Nat.eq_of_mul_eq_mul_right (Nat.two_pow_pos _) h
  rw [← scale_mul_binade_add_significand rank, hscale, hsignificand,
    scale_mul_binade_add_significand]

theorem numerator_zero : numerator 0 = 0 := by simp [numerator, significand]

theorem numerator_pos {rank : Nat} (h : rank ≠ 0) : 0 < numerator rank :=
  Nat.pos_of_ne_zero fun hzero => h (numerator_injective (hzero.trans numerator_zero.symm))

/-- A quotient that is a magnitude is rounded to it. -/
theorem rankOfRatio_numerator {num den rank : Nat} (hnum : 0 < num) (hden : 0 < den)
    (h : num * denominator = numerator rank * den) : rankOfRatio num den = rank := by
  have hscale : scaleOfRatio num den = scale rank := by
    refine (scaleOfRatio_fits hnum hden).unique ?_
    have hfits := (numerator_fits rank).mul_right hden
    rwa [Nat.one_mul, ← h] at hfits
  have hexact : num * denominator = significand rank * (den * Nat.pow 2 (scale rank)) := by
    rw [h, numerator]
    ring
  have hunit : 0 < den * Nat.pow 2 (scale rank) := Nat.mul_pos hden (Nat.two_pow_pos _)
  simp only [rankOfRatio, hscale]
  rw [hexact, divNearest_mul_self _ hunit, scale_mul_binade_add_significand]

theorem magnitude_injective {rank other : Nat} (h : magnitude rank = magnitude other) :
    rank = other := by
  have hden : (denominator : Rat) ≠ 0 := Nat.cast_ne_zero.mpr denominator_pos.ne'
  have hnum : (numerator rank : Rat) = (numerator other : Rat) := by
    unfold magnitude at h
    rwa [div_left_inj' hden] at h
  exact numerator_injective (Nat.cast_injective hnum)

end JsonSchema.Double
