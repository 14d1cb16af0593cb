import Mathlib
import JsonSchema.Proofs.WholeText

/-! Days with a time. All numbers have a fixed count of digits, of any script, except for a
fraction of a second, which may be missing. A fraction is introduced by any sign but a line
break, and so by a point among others. -/
namespace JsonSchema.Format

open Pattern Expr

def IsDigits (least most : Nat) (cs : List Char) : Prop :=
  least ≤ cs.length ∧ cs.length ≤ most ∧ ∀ c ∈ cs, Text.isDigit c

instance (least most : Nat) (cs : List Char) : Decidable (IsDigits least most cs) :=
  decidable_of_iff (least ≤ cs.length ∧ cs.length ≤ most ∧ cs.all Text.isDigit) (by simp [IsDigits])

/-- Up to three digits behind a sign. -/
def IsFraction (introduces : Char → Prop) (cs : List Char) : Prop :=
  ∃ sign digits, cs = sign :: digits ∧ introduces sign ∧ IsDigits 1 3 digits

def IsOptionalFraction (introduces : Char → Prop) (cs : List Char) : Prop :=
  cs = [] ∨ IsFraction introduces cs

theorem IsFraction.imp {introduces other : Char → Prop} {cs : List Char}
    (h : IsFraction introduces cs) (himp : ∀ c, introduces c → other c) : IsFraction other cs := by
  obtain ⟨sign, digits, hcs, hsign, hdigits⟩ := h
  exact ⟨sign, digits, hcs, himp sign hsign, hdigits⟩

theorem IsOptionalFraction.imp {introduces other : Char → Prop} {cs : List Char}
    (h : IsOptionalFraction introduces cs) (himp : ∀ c, introduces c → other c) :
    IsOptionalFraction other cs :=
  Or.imp_right (fun hfraction => hfraction.imp himp) h

/-- A day, a time of that day with what may follow the seconds, and the letter for universal
time. -/
def IsDateTime (IsEnd : List Char → Prop) (cs : List Char) : Prop :=
  ∃ year month day hour minute second rest,
    IsDigits 4 4 year ∧ IsDigits 2 2 month ∧ IsDigits 2 2 day ∧
      IsDigits 2 2 hour ∧ IsDigits 2 2 minute ∧ IsDigits 2 2 second ∧ IsEnd rest ∧
      cs = year ++ '-' :: month ++ '-' :: day ++ 'T' :: hour ++ ':' :: minute ++ ':' :: second
        ++ rest ++ ['Z']

section Ends

variable {IsEnd IsOther : List Char → Prop} {cs : List Char}

theorem IsDateTime.imp (h : IsDateTime IsEnd cs) (himp : ∀ rest, IsEnd rest → IsOther rest) :
    IsDateTime IsOther cs := by
  obtain ⟨year, month, day, hour, minute, second, rest, hyear, hmonth, hday, hhour, hminute,
    hsecond, hrest, hcs⟩ := h
  exact ⟨year, month, day, hour, minute, second, rest, hyear, hmonth, hday, hhour, hminute,
    hsecond, himp rest hrest, hcs⟩

theorem IsDateTime.or (h : IsDateTime (fun rest => IsEnd rest ∨ IsOther rest) cs) :
    IsDateTime IsEnd cs ∨ IsDateTime IsOther cs := by
  obtain ⟨year, month, day, hour, minute, second, rest, hyear, hmonth, hday, hhour, hminute,
    hsecond, hrest, hcs⟩ := h
  exact hrest.imp
    (fun hend => ⟨year, month, day, hour, minute, second, rest, hyear, hmonth, hday, hhour,
      hminute, hsecond, hend, hcs⟩)
    (fun hother => ⟨year, month, day, hour, minute, second, rest, hyear, hmonth, hday, hhour,
      hminute, hsecond, hother, hcs⟩)

/-- What follows the seconds starts at a fixed place. -/
theorem IsDateTime.drop_eq (h : IsDateTime IsEnd cs) :
    ∃ rest, IsEnd rest ∧ cs.drop 19 = rest ++ ['Z'] := by
  obtain ⟨year, month, day, hour, minute, second, rest, hyear, hmonth, hday, hhour, hminute,
    hsecond, hrest, rfl⟩ := h
  unfold IsDigits at hyear hmonth hday hhour hminute hsecond
  refine ⟨rest, hrest, ?_⟩
  rw [List.append_assoc]
  refine List.drop_left' ?_
  simp only [List.length_append, List.length_cons]
  omega

/-- A text can be taken apart in one way only. -/
theorem IsDateTime.both (h : IsDateTime IsEnd cs) (h' : IsDateTime IsOther cs) :
    ∃ rest, IsEnd rest ∧ IsOther rest := by
  obtain ⟨rest, hrest, hdrop⟩ := h.drop_eq
  obtain ⟨rest', hrest', hdrop'⟩ := h'.drop_eq
  obtain rfl : rest = rest' := List.append_cancel_right (hdrop.symm.trans hdrop')
  exact ⟨rest, hrest, hrest'⟩

end Ends

def anyDigit : CharTest :=
  .set .none false [.category .digit false] false

theorem anyDigit_accepts (c : Char) : anyDigit.accepts c = Text.isDigit c := by
  simp [anyDigit, CharTest.accepts, Member.holds, Category.holds]

def digits (least most : Nat) : Expr :=
  .many .greedy least (some most) anyDigit

theorem mem_digits_iff {least most : Nat} {w : List Char} :
    w ∈ (digits least most).language ↔ IsDigits least most w := by
  constructor
  · rintro ⟨hleast, hmost, haccepts⟩
    exact ⟨hleast, hmost most rfl, fun c hc => by simpa [anyDigit_accepts] using haccepts c hc⟩
  · rintro ⟨hleast, hmost, hdigits⟩
    exact ⟨hleast, fun n hn => hmost.trans_eq (Option.some.inj hn),
      fun c hc => by simpa [anyDigit_accepts] using hdigits c hc⟩

def fractionExpr : Expr :=
  .loop .greedy 0 (some 1) (.seq (.one .notNewline) (.seq (digits 1 3) .empty))

theorem mem_fraction_iff {w : List Char} :
    w ∈ fractionExpr.language ↔ IsOptionalFraction (· ≠ '\n') w := by
  simp only [fractionExpr, language_loop, language_seq, language_one, language_empty, mul_one,
    remaining_optional, Language.mem_add, Language.mem_one, CharTest.mem_language_mul,
    mem_digits_iff, CharTest.accepts, decide_eq_true_eq, IsOptionalFraction, IsFraction]

def dateTimeParts : List Expr :=
  [digits 4 4, .one (.only '-'), digits 2 2, .one (.only '-'), digits 2 2, .one (.only 'T'),
    digits 2 2, .one (.only ':'), digits 2 2, .one (.only ':'), digits 2 2, fractionExpr,
    .one (.only 'Z')]

theorem dateTime_language (w : List Char) :
    w ∈ languageAll dateTimeParts ↔ IsDateTime (IsOptionalFraction (· ≠ '\n')) w := by
  simp only [dateTimeParts, languageAll_cons, languageAll_nil, language_one,
    CharTest.language_only, mul_one, mem_mul_sign_mul, mem_digits_iff]
  constructor
  · rintro ⟨year, hyear, _, ⟨month, hmonth, _, ⟨day, hday, _, ⟨hour, hhour, _, ⟨minute, hminute, _,
      htail, rfl⟩, rfl⟩, rfl⟩, rfl⟩, rfl⟩
    obtain ⟨second, hsecond, _, hbehind, rfl⟩ := Language.mem_mul.mp htail
    obtain ⟨fraction, hfraction, _, rfl, rfl⟩ := Language.mem_mul.mp hbehind
    exact ⟨year, month, day, hour, minute, second, fraction, hyear, hmonth, hday, hhour, hminute,
      mem_digits_iff.mp hsecond, mem_fraction_iff.mp hfraction, by simp⟩
  · rintro ⟨year, month, day, hour, minute, second, fraction, hyear, hmonth, hday, hhour, hminute,
      hsecond, hfraction, rfl⟩
    have htail := Language.append_mem_mul (mem_digits_iff.mpr hsecond)
      (Language.append_mem_mul (mem_fraction_iff.mpr hfraction) (Set.mem_singleton ['Z']))
    exact ⟨year, hyear, _, ⟨month, hmonth, _, ⟨day, hday, _, ⟨hour, hhour, _, ⟨minute, hminute, _,
      htail, rfl⟩, rfl⟩, rfl⟩, rfl⟩, by simp⟩

set_option maxRecDepth 2000 in
theorem ofText?_dateTimeText :
    ofText? dateTimeText = .ok ⟨whole dateTimeParts, 20, ⟨19, none⟩⟩ := by
  cbv

theorem decides_dateTime : Decides "date-time" (IsDateTime (IsOptionalFraction (· ≠ '\n'))) :=
  decides_of_whole rfl ofText?_dateTimeText (by decide) (by decide) (by decide) dateTime_language

/-- The fraction is at one place, so it is behind one sign. -/
theorem any_sign_iff_point_iff (cs : List Char) :
    (IsDateTime (IsOptionalFraction (· ≠ '\n')) cs ↔
        IsDateTime (IsOptionalFraction (· = '.')) cs) ↔
      ¬ IsDateTime (IsFraction fun c => c ≠ '.' ∧ c ≠ '\n') cs := by
  refine ⟨fun same hother => ?_, fun hnone => ⟨fun h => ?_, fun h => ?_⟩⟩
  · have haccepted : IsDateTime (IsOptionalFraction (· ≠ '\n')) cs :=
      hother.imp fun rest hrest => .inr (hrest.imp fun c hc => hc.2)
    obtain ⟨rest, ⟨sign, digits, rfl, hsign, -⟩, hpoint⟩ := hother.both (same.mp haccepted)
    rcases hpoint with hnil | ⟨sign', digits', hcons, hsign', -⟩
    · cases hnil
    · exact hsign.1 ((List.cons.inj hcons).1.trans hsign')
  · refine Or.resolve_right (IsDateTime.or (h.imp fun rest => ?_)) hnone
    rintro (hnil | ⟨sign, digits, hrest, hsign, hdigits⟩)
    · exact .inl (.inl hnil)
    · by_cases hpoint : sign = '.'
      · exact .inl (.inr ⟨sign, digits, hrest, hpoint, hdigits⟩)
      · exact .inr ⟨sign, digits, hrest, ⟨hpoint, hsign⟩, hdigits⟩
  · refine h.imp fun rest hrest => hrest.imp ?_
    rintro c rfl
    decide

/-- The format accepts a fraction behind any sign but a line break. It says whether a text is a day
and time with a fraction behind a point, if any, exactly where no other sign is in that place. -/
theorem date_times (text : String) :
    ∃ format fits, named? "date-time" = some format ∧ format.accepts text = .ok fits ∧
      (fits ↔ IsDateTime (IsOptionalFraction (· ≠ '\n')) text.toList) ∧
      ((fits ↔ IsDateTime (IsOptionalFraction (· = '.')) text.toList) ↔
        ¬ IsDateTime (IsFraction fun c => c ≠ '.' ∧ c ≠ '\n') text.toList) := by
  obtain ⟨format, hname, haccepts⟩ := decides_dateTime
  obtain ⟨fits, hfits, hiff⟩ := haccepts text
  exact ⟨format, fits, hname, hfits, hiff,
    (iff_congr hiff Iff.rfl).trans (any_sign_iff_point_iff text.toList)⟩

def letterBeforeFraction : String :=
  "2011-03-12T08:04:10X123Z"

theorem fraction_accepted_behind_a_letter :
    (∃ format, named? "date-time" = some format ∧
      format.accepts letterBeforeFraction = .ok true) ∧
      ¬ IsDateTime (IsOptionalFraction (· = '.')) letterBeforeFraction.toList := by
  have hother : IsDateTime (IsFraction (· = 'X')) letterBeforeFraction.toList :=
    ⟨"2011".toList, "03".toList, "12".toList, "08".toList, "04".toList, "10".toList, "X123".toList,
      by decide, by decide, by decide, by decide, by decide, by decide,
      ⟨'X', "123".toList, rfl, rfl, by decide⟩, rfl⟩
  constructor
  · obtain ⟨format, hname, haccepts⟩ := decides_dateTime
    obtain ⟨fits, hfits, hiff⟩ := haccepts letterBeforeFraction
    refine ⟨format, hname, hfits.trans (congrArg Except.ok (hiff.mpr ?_))⟩
    refine hother.imp fun rest hrest => .inr (hrest.imp ?_)
    rintro c rfl
    decide
  · intro hpoint
    obtain ⟨rest, ⟨sign, digits, rfl, rfl, -⟩, hnil | ⟨sign', digits', hcons, rfl, -⟩⟩ :=
      hother.both hpoint
    · cases hnil
    · cases hcons

end JsonSchema.Format
