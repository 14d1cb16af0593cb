import JsonSchema.Json.Reader
import JsonSchema.Json.Writer
import JsonSchema.Proofs.Rounding
import Mathlib.Data.List.TakeWhile

/-! The text of a number is read back as that number, so different numbers have different
texts. -/
namespace JsonSchema

namespace Json.Reader

theorem natOfDigits_eq (digits : List Char) : natOfDigits digits = Nat.ofDigitChars 10 digits 0 := by
  simp [natOfDigits, Nat.ofDigitChars_eq_foldl, Nat.mul_comm]

theorem natOfDigits_append (digits more : List Char) :
    natOfDigits (digits ++ more) = natOfDigits digits * 10 ^ more.length + natOfDigits more := by
  rw [natOfDigits_eq, Nat.ofDigitChars_append, Nat.ofDigitChars_eq_ofDigitChars_zero,
    natOfDigits_eq, natOfDigits_eq, Nat.mul_comm]

theorem natOfDigits_zeros (count : Nat) : natOfDigits (List.replicate count '0') = 0 := by
  induction count with
  | zero => rfl
  | succ count ih =>
    rw [List.replicate_succ, ← List.singleton_append, natOfDigits_append, ih]
    simp [natOfDigits]

theorem natOfDigits_zeros_append (count : Nat) (digits : List Char) :
    natOfDigits (List.replicate count '0' ++ digits) = natOfDigits digits := by
  rw [natOfDigits_append, natOfDigits_zeros, Nat.zero_mul, Nat.zero_add]

theorem natOfDigits_append_zeros (digits : List Char) (count : Nat) :
    natOfDigits (digits ++ List.replicate count '0') = natOfDigits digits * 10 ^ count := by
  rw [natOfDigits_append, natOfDigits_zeros, List.length_replicate, Nat.add_zero]

theorem natOfDigits_toDigits (n : Nat) : natOfDigits (Nat.toDigits 10 n) = n := by
  rw [natOfDigits_eq, Nat.ofDigitChars_ten_toDigits]

def AllDigits (cs : List Char) : Prop := ∀ c ∈ cs, isDigit c = true

theorem allDigits_toDigits (n : Nat) : AllDigits (Nat.toDigits 10 n) := by
  intro c hc
  have hdigit := Nat.isDigit_of_mem_toDigits (by decide) (by decide) hc
  simp only [Char.isDigit, Bool.and_eq_true, decide_eq_true_eq] at hdigit
  simp only [isDigit, Bool.and_eq_true, decide_eq_true_eq]
  exact hdigit

theorem natOfDigits_lt {digits : List Char} (h : AllDigits digits) :
    natOfDigits digits < 10 ^ digits.length := by
  induction digits with
  | nil => simp [natOfDigits]
  | cons c cs ih =>
    have hfirst : natOfDigits [c] ≤ 9 := by
      have hc := h c List.mem_cons_self
      simp only [isDigit, Bool.and_eq_true, decide_eq_true_eq] at hc
      have hnine : c.toNat ≤ 57 := hc.2
      simp [natOfDigits]
      omega
    have hrest := ih fun d hd => h d (List.mem_cons_of_mem c hd)
    have hscaled := Nat.mul_le_mul_right (10 ^ cs.length) hfirst
    rw [← List.singleton_append, natOfDigits_append, List.length_append, List.length_singleton,
      Nat.add_comm 1, Nat.pow_succ]
    omega

theorem allDigits_zeros (count : Nat) : AllDigits (List.replicate count '0') := by
  intro c hc
  rw [List.eq_of_mem_replicate hc]
  rfl

theorem AllDigits.append {cs ds : List Char} (h : AllDigits cs) (h' : AllDigits ds) :
    AllDigits (cs ++ ds) := by
  intro c hc
  rcases List.mem_append.mp hc with hc | hc
  · exact h c hc
  · exact h' c hc

/-- The digits at the head of a text, where something else follows. -/
theorem takeWhile_digits {cs rest : List Char} (h : AllDigits cs)
    (stop : ∀ c ∈ rest.head?, isDigit c = false) : (cs ++ rest).takeWhile isDigit = cs := by
  rw [List.takeWhile_append_of_pos h]
  cases rest with
  | nil => simp
  | cons c rest => simp [stop c rfl]

theorem dropWhile_digits {cs rest : List Char} (h : AllDigits cs)
    (stop : ∀ c ∈ rest.head?, isDigit c = false) : (cs ++ rest).dropWhile isDigit = rest := by
  rw [List.dropWhile_append_of_pos h]
  cases rest with
  | nil => simp
  | cons c rest => simp [stop c rfl]

/-- A whole part is a zero alone or does not start with one. -/
structure IsWhole (cs : List Char) : Prop where
  digits : AllDigits cs
  nonempty : cs ≠ []
  leading : cs = ['0'] ∨ cs.head? ≠ some '0'

theorem whole?_append {cs rest : List Char} (h : IsWhole cs)
    (stop : ∀ c ∈ rest.head?, isDigit c = false) : whole? (cs ++ rest) = some (cs, rest) := by
  rcases h.leading with rfl | hlead
  · rfl
  · obtain ⟨c, cs, rfl⟩ := List.exists_cons_of_ne_nil h.nonempty
    have hzero : c ≠ '0' := by simpa using hlead
    unfold whole?
    split
    · rename_i heq
      simp_all
    · rw [takeWhile_digits h.digits stop, dropWhile_digits h.digits stop]
      rfl

theorem fraction_append {cs rest : List Char} (h : AllDigits cs) (nonempty : cs ≠ [])
    (stop : ∀ c ∈ rest.head?, isDigit c = false) : fraction ('.' :: (cs ++ rest)) = (cs, rest) := by
  simp [fraction, takeWhile_digits h stop, dropWhile_digits h stop, nonempty]

theorem exponent?_digits {cs : List Char} (h : AllDigits cs) (nonempty : cs ≠ []) (negative : Bool) :
    exponent? ('e' :: (if negative then '-' else '+') :: cs) =
      some (if negative then -(natOfDigits cs : Int) else natOfDigits cs, []) := by
  have hstop : ∀ c ∈ ([] : List Char).head?, isDigit c = false := by simp
  have htake : cs.takeWhile isDigit = cs := by simpa using takeWhile_digits h hstop
  have hdrop : cs.dropWhile isDigit = [] := by simpa using dropWhile_digits h hstop
  cases negative <;> simp [exponent?, htake, hdrop, nonempty]

/-- Digits alone are an integer, if there are not too many. -/
theorem unsigned_whole {whole : List Char} (h : IsWhole whole) (negative : Bool) :
    unsigned negative whole =
      if digitLimit < whole.length then .error (.tooManyDigits whole.length)
      else .ok (.int (if negative then -(natOfDigits whole : Int) else natOfDigits whole), []) := by
  have hfirst : whole? (whole ++ []) = some (whole, []) := whole?_append h (by simp)
  have hsecond : fraction [] = ([], []) := rfl
  have hthird : exponent? [] = none := rfl
  rw [List.append_nil] at hfirst
  simp [unsigned, hfirst, hsecond, hthird, expected, bind, Except.bind, pure, Except.pure, throw,
    throwThe, MonadExceptOf.throw]

theorem fraction_optional {digits : List Char} (h : AllDigits digits) (rest : List Char) :
    fraction ((if digits.isEmpty then [] else '.' :: digits) ++ 'e' :: rest) =
      (digits, 'e' :: rest) := by
  cases digits with
  | nil => rfl
  | cons c digits => exact fraction_append h (List.cons_ne_nil c digits) (by simp [isDigit])

end Json.Reader

namespace Decimal

open Json Json.Reader

/-- The digits that are written: there are some, and the first is not a zero. -/
structure IsMantissa (digits : List Char) : Prop where
  allDigits : AllDigits digits
  nonempty : digits ≠ []
  leading : digits.head? ≠ some '0'

theorem IsMantissa.isWhole {digits zeros : List Char} (h : IsMantissa digits)
    (hzeros : AllDigits zeros) : IsWhole (digits ++ zeros) where
  digits := h.allDigits.append hzeros
  nonempty := by simp [h.nonempty]
  leading := .inr (by rw [List.head?_append_of_ne_nil _ h.nonempty]; exact h.leading)

theorem IsMantissa.take {digits : List Char} (h : IsMantissa digits) {n : Nat} (hn : 0 < n) :
    IsMantissa (digits.take n) where
  allDigits := fun c hc => h.allDigits c (List.mem_of_mem_take hc)
  nonempty := by simp [h.nonempty]; omega
  leading := by rw [List.head?_take, if_neg (by omega)]; exact h.leading

theorem IsMantissa.allDigits_drop {digits : List Char} (h : IsMantissa digits) (n : Nat) :
    AllDigits (digits.drop n) :=
  fun c hc => h.allDigits c (List.mem_of_mem_drop hc)

/-- The texts that decimals are written as, with the numbers that they denote: digits before
and after a point, or a power of ten after them. -/
inductive Spells : List Char → Rat → Prop
  | point {whole digits : List Char} : IsWhole whole → AllDigits digits → digits ≠ [] →
      Spells (whole ++ '.' :: digits)
        (natOfDigits (whole ++ digits) * 10 ^ (-(digits.length : Int)))
  | exponent {whole digits tens : List Char} (below : Bool) : IsWhole whole → AllDigits digits →
      AllDigits tens → tens ≠ [] →
      Spells (whole ++ ((if digits.isEmpty then [] else '.' :: digits) ++
          'e' :: (if below then '-' else '+') :: tens))
        (natOfDigits (whole ++ digits) *
          10 ^ ((if below then -(natOfDigits tens : Int) else natOfDigits tens) - digits.length))

/-- How such a text is taken apart: after the digits there is nothing left, or a power of ten. -/
theorem Spells.parts {text : List Char} {q : Rat} (h : Spells text q) :
    ∃ whole rest digits tail, whole? text = some (whole, rest) ∧ fraction rest = (digits, tail) ∧
      ((tail = [] ∧ digits ≠ [] ∧
          q = natOfDigits (whole ++ digits) * 10 ^ (-(digits.length : Int))) ∨
        ∃ tens, tail ≠ [] ∧ exponent? tail = some (tens, []) ∧
          q = natOfDigits (whole ++ digits) * 10 ^ (tens - digits.length)) := by
  cases h with
  | @point whole digits hwhole hdigits nonempty =>
    have hfraction : fraction ('.' :: (digits ++ [])) = (digits, []) :=
      fraction_append hdigits nonempty (by simp)
    rw [List.append_nil] at hfraction
    exact ⟨whole, _, digits, [], whole?_append hwhole (by simp [isDigit]), hfraction,
      .inl ⟨rfl, nonempty, rfl⟩⟩
  | @exponent whole digits tens below hwhole hdigits htens nonempty =>
    refine ⟨whole, _, digits, _, whole?_append hwhole ?_, fraction_optional hdigits _,
      .inr ⟨_, List.cons_ne_nil _ _, exponent?_digits htens nonempty below, rfl⟩⟩
    cases digits <;> simp [isDigit]

/-- What is read is rounded from the number that the text denotes. -/
theorem Spells.unsigned_eq {text : List Char} {digits : Nat} {exponent : Int}
    (h : Spells text (digits * 10 ^ exponent)) (negative : Bool) :
    unsigned negative text = .ok (.float (.ofDecimal negative digits exponent), []) := by
  obtain ⟨whole, rest, fraction, tail, hwhole, hfraction, ⟨rfl, nonempty, hq⟩ |
    ⟨tens, nonempty, htens, hq⟩⟩ := h.parts
  · have hnone : exponent? [] = none := rfl
    rw [Double.ofDecimal_congr negative hq]
    simp [unsigned, hwhole, hfraction, hnone, expected, bind, Except.bind, pure, Except.pure,
      nonempty]
  · rw [Double.ofDecimal_congr negative hq]
    simp [unsigned, hwhole, hfraction, htens, expected, bind, Except.bind, pure, Except.pure]

/-- Zeros at the end count as powers of ten. -/
theorem natOfDigits_zeros_mul (digits : List Char) (count : Nat) (exponent : Int) :
    (natOfDigits (digits ++ List.replicate count '0') : Rat) * 10 ^ exponent =
      natOfDigits digits * 10 ^ (count + exponent) := by
  rw [natOfDigits_append_zeros, zpow_add₀ (by norm_num), zpow_natCast]
  push_cast
  ring

theorem spells_positional {digits : List Char} (h : IsMantissa digits) (before : Int) :
    Spells (positional digits before) (natOfDigits digits * 10 ^ (before - digits.length)) := by
  unfold positional
  split
  · rename_i hbefore
    have hzero : IsWhole ['0'] := ⟨by simp [AllDigits, isDigit], by simp, .inl rfl⟩
    have hrest := (allDigits_zeros before.natAbs).append h.allDigits
    have hspells := Spells.point hzero hrest (by simp [h.nonempty])
    have hvalue : natOfDigits (['0'] ++ (List.replicate before.natAbs '0' ++ digits)) =
        natOfDigits digits := by
      rw [← List.append_assoc]
      exact natOfDigits_zeros_append (before.natAbs + 1) digits
    have hexponent : -((List.replicate before.natAbs '0' ++ digits).length : Int) =
        before - digits.length := by
      rw [List.length_append, List.length_replicate]
      omega
    rw [hvalue, hexponent] at hspells
    exact hspells
  · rename_i hbefore
    obtain ⟨n, rfl⟩ := Int.eq_ofNat_of_zero_le (Int.le_of_lt (Int.not_le.mp hbefore))
    dsimp only
    rw [Int.natAbs_natCast]
    have hwhole := (h.take (n := n) (by omega)).isWhole
      (allDigits_zeros (n - (digits.take n).length))
    rcases Nat.lt_or_ge n digits.length with hlong | hshort
    · have hfraction : (digits.drop n).isEmpty = false := by simpa using hlong
      have hspells := Spells.point hwhole (h.allDigits_drop n) (by simpa using hlong)
      have hnone : n - (digits.take n).length = 0 := by
        rw [List.length_take]
        omega
      rw [hnone, List.replicate_zero, List.append_nil] at hspells ⊢
      rw [hfraction, if_neg Bool.false_ne_true]
      rw [List.take_append_drop, List.length_drop] at hspells
      rw [show (n : Int) - digits.length = -((digits.length - n : Nat) : Int) by omega]
      exact hspells
    · have hfraction : (digits.drop n).isEmpty = true := by simpa using hshort
      rw [List.take_of_length_le hshort] at hwhole ⊢
      have hzero : AllDigits ['0'] := by simp [AllDigits, isDigit]
      have hspells := Spells.point hwhole hzero (by simp)
      rw [hfraction, if_pos rfl]
      have hzeros : digits ++ List.replicate (n - digits.length) '0' ++ ['0'] =
          digits ++ List.replicate (n - digits.length + 1) '0' := by
        rw [List.append_assoc, List.replicate_succ']
      rw [hzeros, natOfDigits_zeros_mul] at hspells
      rwa [show ((n - digits.length + 1 : Nat) : Int) + -((['0'] : List Char).length : Int) =
        (n : Int) - digits.length by simp; omega] at hspells

theorem spells_scientific {digits : List Char} (h : IsMantissa digits) (exponent : Int) :
    Spells (scientific digits exponent)
      (natOfDigits digits * 10 ^ (exponent - (digits.length - 1))) := by
  have hwhole := (h.take (n := 1) (by omega)).isWhole (allDigits_zeros 0)
  have htens := (allDigits_zeros (2 - (Nat.toDigits 10 exponent.natAbs).length)).append
    (allDigits_toDigits exponent.natAbs)
  have hspells := Spells.exponent (decide (exponent < 0)) hwhole (h.allDigits_drop 1) htens
    (by simp [Nat.toDigits_ne_nil])
  have hpos : 0 < digits.length := List.length_pos_iff.mpr h.nonempty
  have hsign : (if exponent < 0 then -(exponent.natAbs : Int) else exponent.natAbs) = exponent := by
    split <;> omega
  rw [natOfDigits_zeros_append, natOfDigits_toDigits, List.replicate_zero, List.append_nil,
    List.take_append_drop, List.length_drop] at hspells
  simp only [decide_eq_true_eq, hsign] at hspells
  rw [Nat.cast_sub hpos] at hspells
  simpa [scientific] using hspells

theorem withoutTrailingZeros_append (digits : List Char) :
    ∃ count, digits = withoutTrailingZeros digits ++ List.replicate count '0' := by
  have hsplit := List.takeWhile_append_dropWhile (p := (· = '0')) (l := digits.reverse)
  have hzeros : digits.reverse.takeWhile (· = '0') =
      List.replicate (digits.reverse.takeWhile (· = '0')).length '0' :=
    List.eq_replicate_of_mem fun c hc => by simpa using List.mem_takeWhile_imp hc
  refine ⟨(digits.reverse.takeWhile (· = '0')).length, ?_⟩
  have hreverse := congrArg List.reverse hsplit
  rw [List.reverse_append, List.reverse_reverse, hzeros, List.reverse_replicate] at hreverse
  rw [withoutTrailingZeros]
  simpa using hreverse.symm

end Decimal

namespace Json.Reader

/-- The digits of a positive number do not start with a zero, else fewer would do. -/
theorem toDigits_head_ne {n : Nat} (h : 0 < n) : (Nat.toDigits 10 n).head? ≠ some '0' := by
  intro hhead
  obtain ⟨rest, hrest⟩ := List.head?_eq_some_iff.mp hhead
  have hdigits := allDigits_toDigits n
  have hvalue := natOfDigits_toDigits n
  rw [hrest] at hdigits hvalue
  have hbound := natOfDigits_lt fun c hc => hdigits c (List.mem_cons_of_mem '0' hc)
  have hsame : natOfDigits rest = n := by
    rw [← hvalue]
    exact (natOfDigits_zeros_append 1 rest).symm
  rw [hsame] at hbound
  have hpos : 0 < rest.length := by
    refine Nat.pos_of_ne_zero fun hzero => ?_
    rw [hzero] at hbound
    omega
  have hlength := (Nat.length_toDigits_le_iff (by decide) hpos).mpr hbound
  rw [hrest, List.length_cons] at hlength
  omega

theorem isWhole_toDigits (n : Nat) : IsWhole (Nat.toDigits 10 n) where
  digits := allDigits_toDigits n
  nonempty := Nat.toDigits_ne_nil
  leading := by
    rcases Nat.eq_zero_or_pos n with rfl | hpos
    · exact .inl (Nat.toDigits_zero 10)
    · exact .inr (toDigits_head_ne hpos)

end Json.Reader

namespace Decimal

open Json Json.Reader

theorem isMantissa_withoutTrailingZeros {n : Nat} (h : 0 < n) :
    IsMantissa (withoutTrailingZeros (Nat.toDigits 10 n)) := by
  obtain ⟨count, hcount⟩ := withoutTrailingZeros_append (Nat.toDigits 10 n)
  have hhead := toDigits_head_ne h
  have hvalue := natOfDigits_toDigits n
  have hdigits := allDigits_toDigits n
  rw [hcount] at hhead hvalue hdigits
  have hnonempty : withoutTrailingZeros (Nat.toDigits 10 n) ≠ [] := by
    intro hnil
    rw [hnil, List.nil_append, natOfDigits_zeros] at hvalue
    omega
  rw [List.head?_append_of_ne_nil _ hnonempty] at hhead
  exact ⟨fun c hc => hdigits c (List.mem_append_left _ hc), hnonempty, hhead⟩

/-- A decimal is written as a text that denotes it. -/
theorem spells_chars {d : Decimal} (h : 0 < d.digits) :
    Spells d.chars (d.digits * 10 ^ d.exponent) := by
  have hmantissa := isMantissa_withoutTrailingZeros h
  obtain ⟨count, hcount⟩ := withoutTrailingZeros_append (Nat.toDigits 10 d.digits)
  have hlength := congrArg List.length hcount
  have hvalue := natOfDigits_zeros_mul (withoutTrailingZeros (Nat.toDigits 10 d.digits)) count
    d.exponent
  rw [List.length_append, List.length_replicate] at hlength
  rw [← hcount, natOfDigits_toDigits] at hvalue
  rw [hvalue]
  unfold chars
  dsimp only
  split
  · have hspells := spells_positional hmantissa ((Nat.toDigits 10 d.digits).length + d.exponent)
    rwa [show ((Nat.toDigits 10 d.digits).length : Int) + d.exponent -
      (withoutTrailingZeros (Nat.toDigits 10 d.digits)).length = count + d.exponent by omega]
      at hspells
  · have hspells := spells_scientific hmantissa
      ((Nat.toDigits 10 d.digits).length + d.exponent - 1)
    rwa [show ((Nat.toDigits 10 d.digits).length : Int) + d.exponent - 1 -
      ((withoutTrailingZeros (Nat.toDigits 10 d.digits)).length - 1) = count + d.exponent by omega]
      at hspells

/-- What stands in front of the point, or of the power of ten, is a digit. -/
theorem chars_eq_cons {d : Decimal} (h : 0 < d.digits) :
    ∃ c rest, d.chars = c :: rest ∧ isDigit c = true := by
  have hmantissa := isMantissa_withoutTrailingZeros h
  obtain ⟨c, rest, hcons⟩ := List.exists_cons_of_ne_nil hmantissa.nonempty
  have hc : isDigit c = true := hmantissa.allDigits c (by rw [hcons]; exact List.mem_cons_self)
  unfold chars positional scientific
  dsimp only
  rw [hcons]
  split
  · split
    · exact ⟨'0', _, rfl, rfl⟩
    · rename_i hbefore
      obtain ⟨n, hn⟩ := Nat.exists_eq_succ_of_ne_zero (Int.natAbs_ne_zero.mpr fun hzero =>
        hbefore hzero.le)
      rw [hn]
      exact ⟨c, _, rfl, hc⟩
  · exact ⟨c, _, rfl, hc⟩

end Decimal

namespace Json.Reader

/-- What starts with a digit is a number. -/
theorem scalar_digit {c : Char} (h : isDigit c = true) (rest : List Char) :
    scalar (c :: rest) = unsigned false (c :: rest) := by
  unfold scalar
  split <;> simp_all [isDigit]

theorem scalar_minus_digit {c : Char} (h : isDigit c = true) (rest : List Char) :
    scalar ('-' :: c :: rest) = unsigned true (c :: rest) := by
  unfold scalar
  split <;> simp_all [isDigit]

/-- The text of a double is read as that double. -/
theorem scalar_text (x : Double) :
    scalar (x.text floatSpelling).toList = .ok (.float x, []) := by
  cases x with
  | nan => rfl
  | infinity negative => cases negative <;> rfl
  | finite negative rank =>
    have hread : ∃ c rest, (if rank.val = 0 then ['0', '.', '0']
        else (Decimal.shortest rank).chars) = c :: rest ∧ isDigit c = true ∧
          unsigned negative (c :: rest) = .ok (.float (.finite negative rank), []) := by
      by_cases hzero : rank.val = 0
      · have hzeros : unsigned negative ['0', '.', '0'] =
            .ok (.float (.ofDecimal negative 0 (-1)), []) := rfl
        have hrank : Double.ofDecimal negative 0 (-1) = .finite negative rank := by
          rw [Double.ofDecimal_eq, if_pos (.inl rfl), ← hzero, Double.ofRank_val]
        rw [hrank] at hzeros
        exact ⟨'0', ['.', '0'], by rw [if_pos hzero], rfl, hzeros⟩
      · have hpos := Decimal.shortest_digits_pos hzero rank.isLt
        obtain ⟨c, rest, hchars, hc⟩ := Decimal.chars_eq_cons hpos
        have hunsigned := (Decimal.spells_chars hpos).unsigned_eq negative
        have hdouble := Decimal.shortest_toDouble hzero rank.isLt
        rw [Double.ofRank_val, Decimal.toDouble] at hdouble
        rw [Double.ofDecimal_of_false negative hdouble, hchars] at hunsigned
        exact ⟨c, rest, by rw [if_neg hzero, hchars], hc, hunsigned⟩
    obtain ⟨c, rest, hchars, hc, hunsigned⟩ := hread
    unfold Double.text
    dsimp only
    rw [hchars, String.toList_ofList]
    cases negative with
    | false => exact (scalar_digit hc rest).trans hunsigned
    | true => exact (scalar_minus_digit hc rest).trans hunsigned

end Json.Reader

/-- Different doubles have different texts. -/
theorem Double.text_injective : Function.Injective (Double.text Json.floatSpelling) := by
  intro x y h
  have hread := Json.Reader.scalar_text x
  rw [h, Json.Reader.scalar_text y] at hread
  simpa using hread.symm

end JsonSchema
