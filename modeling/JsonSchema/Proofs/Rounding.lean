import JsonSchema.Proofs.Magnitude
import Mathlib.Algebra.Order.Field.Power
import Mathlib.Tactic.FieldSimp
import Mathlib.Tactic.Positivity

/-! Reading a decimal depends on nothing but its value, and the decimal that a double is
written with is read as that double. -/
namespace JsonSchema

theorem Decimal.toRat_eq (d : Decimal) : d.toRat = (d.digits : Rat) * 10 ^ d.exponent := by
  unfold toRat
  split
  · rename_i hneg
    obtain ⟨n, hn⟩ := Int.eq_negSucc_of_lt_zero hneg
    rw [hn, Int.natAbs_negSucc, zpow_negSucc, div_eq_mul_inv]
    norm_cast
  · rename_i hpos
    obtain ⟨n, hn⟩ := Int.eq_ofNat_of_zero_le (Int.not_lt.mp hpos)
    rw [hn, Int.natAbs_natCast, zpow_natCast]
    norm_cast

/-- A number of so many digits lies between two powers of ten. -/
theorem toDigits_bounds {n : Nat} (h : 0 < n) :
    10 ^ ((Nat.toDigits 10 n).length - 1) ≤ n ∧ n < 10 ^ (Nat.toDigits 10 n).length := by
  have hlength : 0 < (Nat.toDigits 10 n).length := Nat.length_toDigits_pos
  refine ⟨?_, (Nat.length_toDigits_le_iff (by decide) hlength).mp le_rfl⟩
  by_cases hone : (Nat.toDigits 10 n).length = 1
  · rw [hone]
    exact h
  · by_contra hless
    have hshort := (Nat.length_toDigits_le_iff (b := 10) (k := (Nat.toDigits 10 n).length - 1)
      (by decide) (by omega)).mpr (Nat.lt_of_not_le hless)
    omega

namespace Double

/-- How many digits of `digits * 10 ^ exponent` stand before the point. -/
def decimalWidth (digits : Nat) (exponent : Int) : Int :=
  ((Nat.toDigits 10 digits).length : Int) + exponent

theorem decimalWidth_bounds {digits : Nat} (h : 0 < digits) (exponent : Int) :
    (10 : Rat) ^ (decimalWidth digits exponent - 1) ≤ digits * 10 ^ exponent ∧
      (digits : Rat) * 10 ^ exponent < 10 ^ decimalWidth digits exponent := by
  have hlength : 0 < (Nat.toDigits 10 digits).length := Nat.length_toDigits_pos
  obtain ⟨hlow, hhigh⟩ := toDigits_bounds h
  have hpos : (0 : Rat) < 10 ^ exponent := by positivity
  have hlowRat : (10 : Rat) ^ ((Nat.toDigits 10 digits).length - 1) ≤ digits := by
    exact_mod_cast hlow
  have hhighRat : (digits : Rat) < 10 ^ (Nat.toDigits 10 digits).length := by
    exact_mod_cast hhigh
  constructor
  · have hsplit : decimalWidth digits exponent - 1 =
        (((Nat.toDigits 10 digits).length - 1 : Nat) : Int) + exponent := by
      unfold decimalWidth
      omega
    rw [hsplit, zpow_add₀ (by norm_num), zpow_natCast]
    exact mul_le_mul_of_nonneg_right hlowRat hpos.le
  · rw [decimalWidth, zpow_add₀ (by norm_num), zpow_natCast]
    exact mul_lt_mul_of_pos_right hhighRat hpos

theorem decimalWidth_congr {digits digits' : Nat} {exponent exponent' : Int}
    (hdigits : 0 < digits) (hdigits' : 0 < digits')
    (h : (digits : Rat) * 10 ^ exponent = digits' * 10 ^ exponent') :
    decimalWidth digits exponent = decimalWidth digits' exponent' := by
  obtain ⟨hlow, hhigh⟩ := decimalWidth_bounds hdigits exponent
  obtain ⟨hlow', hhigh'⟩ := decimalWidth_bounds hdigits' exponent'
  have hone : (1 : Rat) < 10 := by norm_num
  have hless := (zpow_lt_zpow_iff_right₀ hone).mp (hlow.trans_lt (h ▸ hhigh'))
  have hless' := (zpow_lt_zpow_iff_right₀ hone).mp (hlow'.trans_lt (h ▸ hhigh))
  omega

/-- A decimal within range is rounded as the quotient of two integers. -/
theorem ofDecimal_eq (negative : Bool) (digits : Nat) (exponent : Int) :
    ofDecimal negative digits exponent =
      if digits = 0 ∨ decimalWidth digits exponent < -330 then ofRank negative 0
      else if 320 < decimalWidth digits exponent then .infinity negative
      else ofRatio negative (digits * 10 ^ exponent.toNat) (10 ^ (-exponent).toNat) := by
  unfold ofDecimal decimalWidth
  dsimp only
  congr 2
  split
  · rename_i hneg
    rw [show exponent.toNat = 0 by omega, show exponent.natAbs = (-exponent).toNat by omega,
      Nat.pow_zero, Nat.mul_one]
    rfl
  · rename_i hpos
    rw [show (-exponent).toNat = 0 by omega, show exponent.natAbs = exponent.toNat by omega,
      Nat.pow_zero]
    rfl

theorem digits_mul_zpow (digits : Nat) (exponent : Int) :
    (digits : Rat) * 10 ^ exponent =
      ((digits * 10 ^ exponent.toNat : Nat) : Rat) / ((10 ^ (-exponent).toNat : Nat) : Rat) := by
  rcases Int.le_total 0 exponent with hpos | hneg
  · obtain ⟨n, rfl⟩ := Int.eq_ofNat_of_zero_le hpos
    simp
  · obtain ⟨n, hn⟩ := Int.exists_eq_neg_ofNat hneg
    subst hn
    simp [div_eq_mul_inv]

/-- Decimals of one value are read as one double. -/
theorem ofDecimal_congr (negative : Bool) {digits digits' : Nat} {exponent exponent' : Int}
    (h : (digits : Rat) * 10 ^ exponent = digits' * 10 ^ exponent') :
    ofDecimal negative digits exponent = ofDecimal negative digits' exponent' := by
  have hpow : ∀ e : Int, (10 : Rat) ^ e ≠ 0 := fun e => zpow_ne_zero e (by norm_num)
  by_cases hzero : digits = 0
  · have hzero' : digits' = 0 := by simpa [hzero, hpow] using h.symm
    simp [ofDecimal_eq, hzero, hzero']
  · have hzero' : digits' ≠ 0 := by
      rintro rfl
      simp [hzero, hpow] at h
    have hwidth := decimalWidth_congr (by omega) (by omega) h
    have hratio : ofRatio negative (digits * 10 ^ exponent.toNat) (10 ^ (-exponent).toNat) =
        ofRatio negative (digits' * 10 ^ exponent'.toNat) (10 ^ (-exponent').toNat) := by
      refine congrArg (ofRank negative)
        (rankOfRatio_congr (by positivity) (by positivity) (by positivity) ?_)
      rw [digits_mul_zpow, digits_mul_zpow, div_eq_div_iff (by positivity) (by positivity)] at h
      exact_mod_cast h
    rw [ofDecimal_eq, ofDecimal_eq, hratio, hwidth]
    simp only [hzero, hzero']

theorem ofRank_val (negative : Bool) (rank : Fin ranks) :
    ofRank negative rank = .finite negative rank := by
  simp [ofRank]

/-- The sign takes no part in the rounding. -/
theorem ofDecimal_of_false {digits : Nat} {exponent : Int} {rank : Fin ranks} (negative : Bool)
    (h : ofDecimal false digits exponent = .finite false rank) :
    ofDecimal negative digits exponent = .finite negative rank := by
  have hrank : ∀ n : Nat, ofRank false n = .finite false rank →
      ofRank negative n = .finite negative rank := by
    intro n hn
    unfold ofRank at hn ⊢
    split at hn <;> simp_all
  rw [ofDecimal_eq] at h ⊢
  split
  · rename_i hsmall
    exact hrank 0 (by simpa [hsmall] using h)
  · rename_i hsmall
    split
    · rename_i hlarge
      simp [hsmall, hlarge] at h
    · rename_i hlarge
      rw [if_neg hsmall, if_neg hlarge] at h
      exact hrank _ h

end Double

namespace Double

theorem numerator_lt {rank n : Nat} (h : rank < ranks) (hn : denominator = 2 ^ n)
    (hwide : 1074 ≤ n) : numerator rank < 2 ^ 1024 * denominator := by
  have hscale : scale rank ≤ 2045 := by
    have hbinade : rank / binade < 2047 := Nat.div_lt_of_lt_mul (by rwa [Nat.mul_comm])
    unfold scale
    omega
  have hbelow := (numerator_fits rank).below
  rw [Nat.one_mul] at hbelow
  rw [hn, ← Nat.pow_add]
  exact hbelow.trans_le (Nat.pow_le_pow_right (by decide) (by omega))

theorem magnitude_bounds {rank : Nat} (hzero : rank ≠ 0) (h : rank < ranks) :
    (10 : Rat) ^ (-330 : Int) ≤ magnitude rank ∧ magnitude rank < 10 ^ (320 : Int) := by
  have hden : (0 : Rat) < denominator := Nat.cast_pos.mpr denominator_pos
  unfold magnitude
  constructor
  · rw [le_div_iff₀ hden, zpow_neg, inv_mul_le_iff₀ (by positivity)]
    have hsmall : denominator ≤ 10 ^ 330 := by decide +kernel
    have hone : 1 ≤ numerator rank := numerator_pos hzero
    have hprod := Nat.mul_le_mul hsmall hone
    rw [Nat.mul_one] at hprod
    exact_mod_cast hprod
  · rw [div_lt_iff₀ hden]
    have hlarge : 2 ^ 1024 ≤ 10 ^ 320 := by decide +kernel
    have hbelow := numerator_lt (n := 1074) h (by decide +kernel) le_rfl
    have hprod := hbelow.trans_le (Nat.mul_le_mul_right denominator hlarge)
    exact_mod_cast hprod

end Double

namespace Decimal

open Double

/-- A decimal whose value is a magnitude is read as it. -/
theorem toDouble_of_value {d : Decimal} {rank : Nat} (hzero : rank ≠ 0) (h : rank < ranks)
    (hvalue : (d.digits : Rat) * 10 ^ d.exponent = magnitude rank) :
    d.toDouble = ofRank false rank := by
  obtain ⟨hsmall, hlarge⟩ := magnitude_bounds hzero h
  have hdigits : 0 < d.digits := by
    refine Nat.pos_of_ne_zero fun hd => ?_
    have hpos : (0 : Rat) < 10 ^ (-330 : Int) := by positivity
    rw [hd, Nat.cast_zero, zero_mul] at hvalue
    exact absurd (hpos.trans_le hsmall) (by rw [← hvalue]; exact lt_irrefl 0)
  obtain ⟨hlow, hhigh⟩ := decimalWidth_bounds hdigits d.exponent
  rw [hvalue] at hlow hhigh
  have hone : (1 : Rat) < 10 := by norm_num
  have hmin := (zpow_lt_zpow_iff_right₀ hone).mp (hsmall.trans_lt hhigh)
  have hmax := (zpow_lt_zpow_iff_right₀ hone).mp (hlow.trans_lt hlarge)
  rw [toDouble, ofDecimal_eq, if_neg (by omega), if_neg (by omega)]
  refine congrArg (ofRank false) (rankOfRatio_numerator (by positivity) (by positivity) ?_)
  rw [digits_mul_zpow, magnitude, div_eq_div_iff (by positivity)
    (Nat.cast_ne_zero.mpr denominator_pos.ne')] at hvalue
  exact_mod_cast hvalue

theorem mul_pow_five_value (num n : Nat) :
    ((num * Nat.pow 5 n : Nat) : Rat) * 10 ^ (-(n : Int)) = (num : Rat) / (Nat.pow 2 n : Nat) := by
  have hten : (10 : Rat) ^ n = 5 ^ n * 2 ^ n := by rw [← mul_pow]; norm_num
  rw [zpow_neg, zpow_natCast, hten, Nat.pow_eq, Nat.pow_eq]
  push_cast
  field_simp

theorem exact_value (rank : Nat) :
    ((exact rank).digits : Rat) * 10 ^ (exact rank).exponent = magnitude rank := by
  unfold exact magnitude denominator
  exact mul_pow_five_value (numerator rank) 1074

theorem neighbour?_readsBack {rank count : Nat} {d : Decimal} (h : neighbour? rank count = some d) :
    readsBack rank d = true := by
  have hpick : ∀ nearest below above : Decimal,
      (if readsBack rank nearest then some nearest
        else if readsBack rank below then some below
        else if readsBack rank above then some above else none) = some d →
      readsBack rank d = true := by
    intro nearest below above hd
    grind
  unfold neighbour? at h
  dsimp only at h
  exact hpick _ _ _ h

/-- The decimal that a magnitude is written with is read as it. -/
theorem shortest_toDouble {rank : Nat} (hzero : rank ≠ 0) (h : rank < ranks) :
    (shortest rank).toDouble = ofRank false rank := by
  unfold shortest
  cases hfound : (List.range 17).findSome? fun n => neighbour? rank (n + 1) with
  | none =>
    rw [Option.getD_none]
    exact toDouble_of_value hzero h (exact_value rank)
  | some d =>
    obtain ⟨n, _, hn⟩ := List.exists_of_findSome?_eq_some hfound
    exact of_decide_eq_true (neighbour?_readsBack hn)

theorem shortest_digits_pos {rank : Nat} (hzero : rank ≠ 0) (h : rank < ranks) :
    0 < (shortest rank).digits := by
  refine Nat.pos_of_ne_zero fun hdigits => hzero ?_
  have hread := shortest_toDouble hzero h
  rw [toDouble, ofDecimal_eq, if_pos (.inl hdigits)] at hread
  have hranks : 0 < ranks := by omega
  simpa [ofRank, h, hranks] using hread.symm

end Decimal

end JsonSchema
