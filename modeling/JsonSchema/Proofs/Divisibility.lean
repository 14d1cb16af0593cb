import Mathlib.Algebra.Order.Floor.Ring
import Mathlib.Data.Rat.Floor
import JsonSchema.Json.Display
import JsonSchema.Proofs.Interchange
import JsonSchema.Proofs.Spelling
import JsonSchema.Proofs.Typed

/-! Divisibility is that of exact decimals: of the numbers that the texts of two numbers denote,
one is a whole multiple of the other. A test that goes by the texts, and would fail on what is no
number or by dividing by zero, does not fail and agrees with the one that is run, which takes a
shorter way between integers. -/
namespace JsonSchema

namespace Json.Reader

/-- The number that a text without a sign denotes: digits with a point or without, and a power of
ten. -/
def unsignedRational? (cs : List Char) : Option Rat := do
  let (whole, rest) ← whole? cs
  let (fraction, rest) := fraction rest
  let digits : Rat := natOfDigits (whole ++ fraction)
  if rest.isEmpty then return digits * 10 ^ (-(fraction.length : Int))
  let (tens, rest) ← exponent? rest
  if rest.isEmpty then return digits * 10 ^ (tens - fraction.length) else none

def rational? : List Char → Option Rat
  | '-' :: cs => (unsignedRational? cs).map (- ·)
  | cs => unsignedRational? cs

theorem unsignedRational?_whole {whole : List Char} (h : IsWhole whole) :
    unsignedRational? whole = some (natOfDigits whole : Rat) := by
  have hfirst : whole? (whole ++ []) = some (whole, []) := whole?_append h (by simp)
  have hsecond : fraction [] = ([], []) := rfl
  rw [List.append_nil] at hfirst
  simp [unsignedRational?, hfirst, hsecond]

/-- A text that spells a number denotes it. -/
theorem unsignedRational?_of_spells {text : List Char} {q : Rat} (h : Decimal.Spells text q) :
    unsignedRational? text = some q := by
  obtain ⟨whole, rest, digits, tail, hwhole, hfraction, ⟨rfl, -, hq⟩ | ⟨tens, nonempty, htens, hq⟩⟩ :=
    h.parts
  · simp [unsignedRational?, hwhole, hfraction, hq]
  · simp [unsignedRational?, hwhole, hfraction, htens, nonempty, hq]

/-- A sign stands in front of digits. -/
theorem rational?_signed {c : Char} {rest : List Char} {q : Rat} (hc : isDigit c = true)
    (h : unsignedRational? (c :: rest) = some q) (negative : Bool) :
    rational? (if negative then '-' :: c :: rest else c :: rest) =
      some (if negative then -q else q) := by
  cases negative with
  | true => simp [rational?, h]
  | false =>
    have hsign : c ≠ '-' := by
      rintro rfl
      cases hc
    simp only [Bool.false_eq_true, ↓reduceIte]
    rw [rational?, h]
    rintro _ ⟨⟩
    exact hsign rfl

theorem rational?_integer (n : Int) : rational? (integerChars n) = some (n : Rat) := by
  have hwhole := isWhole_toDigits n.natAbs
  have hvalue := unsignedRational?_whole hwhole
  rw [natOfDigits_toDigits] at hvalue
  obtain ⟨c, rest, hcons⟩ := List.exists_cons_of_ne_nil hwhole.nonempty
  have hc : isDigit c = true := hwhole.digits c (by rw [hcons]; exact List.mem_cons_self)
  rw [hcons] at hvalue
  have hsigned := rational?_signed hc hvalue (decide (n < 0))
  simp only [decide_eq_true_eq] at hsigned
  rw [integerChars, hcons, hsigned, Nat.cast_natAbs]
  split
  · rename_i hneg
    rw [abs_of_neg hneg]
    simp
  · rename_i hpos
    rw [abs_of_nonneg (by omega)]

theorem rational?_text (x : Double) : rational? (x.text messageSpelling).toList = x.decimal? := by
  cases x with
  | nan => rfl
  | infinity negative => cases negative <;> rfl
  | finite negative rank =>
    unfold Double.text Double.decimal?
    dsimp only
    rw [String.toList_ofList]
    by_cases hzero : rank.val = 0
    · rw [if_pos hzero, if_pos hzero]
      have hzeros : unsignedRational? ['0', '.', '0'] = some 0 := by
        simp [unsignedRational?, whole?, fraction, isDigit, natOfDigits]
      exact rational?_signed rfl hzeros negative
    · rw [if_neg hzero, if_neg hzero]
      have hpos := Decimal.shortest_digits_pos hzero rank.isLt
      obtain ⟨c, rest, hchars, hc⟩ := Decimal.chars_eq_cons hpos
      have hvalue := unsignedRational?_of_spells (Decimal.spells_chars hpos)
      rw [← Decimal.toRat_eq, hchars] at hvalue
      rw [hchars]
      exact rational?_signed hc hvalue negative

end Json.Reader

namespace Json

open Reader

/-- The text of a number denotes its exact decimal value; that of a NaN or an infinity denotes
nothing. -/
theorem rational?_display {json : Json} (number : json.isNumber) :
    rational? json.display.toList = json.decimal? := by
  cases json with
  | int n =>
    change rational? (String.ofList (integerChars n)).toList = some (n : Rat)
    rw [String.toList_ofList, rational?_integer]
  | float x =>
    change rational? (String.ofList (x.text messageSpelling).toList).toList = x.decimal?
    rw [String.toList_ofList, rational?_text]
  | _ => cases number

/-- What stands in the way of a remainder. -/
inductive RemainderFlaw where
  | notANumber
  | byZero

/-- The remainder of the numbers that two texts denote, the quotient rounded down. -/
def remainder (value divisor : List Char) : Except RemainderFlaw Rat :=
  match rational? value, rational? divisor with
  | some v, some d => if d = 0 then .error .byZero else .ok (v - d * ⌊v / d⌋)
  | _, _ => .error .notANumber

/-- Divisibility by the texts of two numbers: what denotes no number divides nothing, and nothing
divides it. No integer that is read has more than `digitLimit` digits, so each has a text. -/
def dividesByText (value divisor : Json) : Except RemainderFlaw Bool :=
  if divisor.le (.int 0) then .ok false
  else
    match remainder value.display.toList divisor.display.toList with
    | .ok rest => .ok (rest = 0)
    | .error .notANumber => .ok false
    | .error .byZero => .error .byZero

/-- The exact value of a number and that of its text have one sign. -/
theorem exact_of_decimal? {json : Json} {d : Rat} (h : json.decimal? = some d) :
    ∃ e, json.quantity? = some (.exact e) ∧ (0 < e ↔ 0 < d) := by
  cases json with
  | int n =>
    cases h
    exact ⟨n, rfl, Iff.rfl⟩
  | float x =>
    cases x with
    | finite negative rank =>
      cases h
      refine ⟨_, rfl, ?_⟩
      by_cases hzero : rank.val = 0
      · have hmagnitude : Double.magnitude rank = 0 := by
          rw [Double.magnitude, hzero, Double.numerator_zero, Nat.cast_zero, zero_div]
        rw [hmagnitude, if_pos hzero]
      · have hmagnitude : 0 < Double.magnitude rank :=
          div_pos (Nat.cast_pos.mpr (Double.numerator_pos hzero))
            (Nat.cast_pos.mpr Double.denominator_pos)
        have hdecimal : 0 < (Decimal.shortest rank).toRat := by
          rw [Decimal.toRat_eq]
          exact mul_pos (Nat.cast_pos.mpr (Decimal.shortest_digits_pos hzero rank.isLt))
            (zpow_pos (by norm_num) _)
        rw [if_neg hzero]
        generalize Double.magnitude rank = m at hmagnitude
        generalize (Decimal.shortest rank).toRat = q at hdecimal
        cases negative with
        | false => simp [hmagnitude, hdecimal]
        | true => simp [hmagnitude.not_gt, hdecimal.not_gt]
    | _ => cases h
  | _ => cases h

/-- What a text denotes is positive exactly if the number is, either way the number is compared
with zero. -/
theorem decimal_pos_iff {json : Json} {d : Rat} (h : json.decimal? = some d) :
    ((Json.int 0).lt json ↔ 0 < d) ∧ (json.le (.int 0) ↔ ¬ 0 < d) := by
  obtain ⟨e, hexact, hsign⟩ := exact_of_decimal? h
  have hzero : (Json.int 0).quantity? = some (.exact 0) := rfl
  rw [← hsign, lt, le, hexact, hzero]
  simp [Quantity.lt, Quantity.le]

/-- One number is positive and another a whole multiple of it, going by what their texts denote,
which is nothing for a NaN or an infinity. -/
def IsWholeMultiple (value divisor : Json) : Prop :=
  (Json.int 0).lt divisor ∧ ∃ v d : Rat, rational? value.display.toList = some v ∧
    rational? divisor.display.toList = some d ∧ ∃ k : Int, v = k * d

theorem remainder_eq_zero_iff {v d : Rat} (hd : 0 < d) :
    v - d * ⌊v / d⌋ = 0 ↔ ∃ k : Int, v = k * d := by
  constructor
  · intro h
    exact ⟨⌊v / d⌋, by rw [mul_comm]; exact sub_eq_zero.mp h⟩
  · rintro ⟨k, rfl⟩
    rw [mul_div_assoc, div_self hd.ne', mul_one, Int.floor_intCast]
    ring

theorem den_div_eq_one_iff {v d : Rat} (hd : 0 < d) :
    (v / d).den = 1 ↔ ∃ k : Int, v = k * d := by
  rw [Rat.den_eq_one_iff]
  constructor
  · intro h
    exact ⟨(v / d).num, by rw [h, div_mul_cancel₀ v hd.ne']⟩
  · rintro ⟨k, rfl⟩
    rw [mul_div_assoc, div_self hd.ne', mul_one, Rat.num_intCast]

section

variable {value divisor : Json} (number : value.isNumber) (number' : divisor.isNumber)
include number number'

/-- The test that goes by the texts never fails, and the one that is run agrees with it, also where
that takes the shorter way between integers. -/
theorem dividesByText_eq : dividesByText value divisor = .ok (value.isMultipleOf divisor) := by
  rw [dividesByText, remainder, rational?_display number, rational?_display number',
    isMultipleOf_eq]
  cases hd : divisor.decimal? with
  | none => cases value.decimal? <;> simp
  | some d =>
    obtain ⟨-, hnonpos⟩ := decimal_pos_iff hd
    cases value.decimal? with
    | none => simp
    | some v =>
      rcases lt_or_ge 0 d with hpos | hneg
      · have hle : ¬ divisor.le (.int 0) := fun h => hnonpos.mp h hpos
        have hsame := (remainder_eq_zero_iff (v := v) hpos).trans (den_div_eq_one_iff hpos).symm
        simp only [hle, hpos, hpos.ne', hsame, decide_true, Bool.true_and, if_false]
        rfl
      · have hle : divisor.le (.int 0) := hnonpos.mpr hneg.not_gt
        simp [hle, hneg.not_gt]

theorem isMultipleOf_iff : value.isMultipleOf divisor ↔ value.IsWholeMultiple divisor := by
  rw [IsWholeMultiple, rational?_display number, rational?_display number', isMultipleOf_eq]
  cases hd : divisor.decimal? with
  | none => cases value.decimal? <;> simp
  | some d =>
    rw [(decimal_pos_iff hd).1]
    cases value.decimal? with
    | none => simp
    | some v =>
      rcases lt_or_ge 0 d with hpos | hneg
      · simp [hpos, den_div_eq_one_iff hpos]
      · simp [hneg.not_gt]

end

end Json

namespace Check

/-- The bounds of a number have violations of other kinds. -/
theorem kind_of_bound {schema : Node} {value : Json} {found : Finding}
    (h : some found ∈ [minimum schema value, exclusiveMinimum schema value, maximum schema value,
      exclusiveMaximum schema value]) : found.kind ≠ .multipleOf := by
  simp only [List.mem_cons, List.not_mem_nil, or_false] at h
  rcases h with h | h | h | h
  · unfold minimum at h
    dsimp only at h
    split at h <;> (try split at h) <;> (try split at h) <;> cases h <;> nofun
  · unfold exclusiveMinimum at h
    dsimp only at h
    split at h <;> cases h
    nofun
  · unfold maximum at h
    dsimp only at h
    split at h <;> (try split at h) <;> (try split at h) <;> cases h <;> nofun
  · unfold exclusiveMaximum at h
    dsimp only at h
    split at h <;> cases h
    nofun

/-- It is reported that a number does not divide unless it does. -/
theorem unreported_iff {schema divisor : Node} {value : Json} (path : Path)
    (governs : schema.member? "multipleOf" = some divisor) :
    (∀ violation ∈ numberViolations schema value path, violation.kind ≠ .multipleOf) ↔
      value.isMultipleOf divisor.json := by
  rw [numberViolations, numberFindings, List.flatMap_cons, List.forall_mem_append]
  have hbounds : ∀ violation ∈ [minimum schema value, exclusiveMinimum schema value,
      maximum schema value, exclusiveMaximum schema value].flatMap
        fun found => (found.map (·.violation path)).toList, violation.kind ≠ .multipleOf := by
    intro violation hmem
    obtain ⟨finding?, hfinding, hviolation⟩ := List.mem_flatMap.mp hmem
    obtain ⟨found, rfl, rfl⟩ := Option.map_eq_some_iff.mp (Option.mem_toList.mp hviolation)
    exact kind_of_bound hfinding
  rw [and_iff_left hbounds, multipleOf, governs, Option.bind_some]
  cases value.isMultipleOf divisor.json <;> simp [Finding.violation, Violation.of]

end Check

end JsonSchema
