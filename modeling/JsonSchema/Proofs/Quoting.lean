import JsonSchema.Json.Reader
import JsonSchema.Json.Writer
import Mathlib.Data.Nat.Digits.Defs

/-! A string is read back from its quotation, whatever follows it. -/
namespace JsonSchema

theorem Text.hexDigit?_digitChar {d : Nat} (h : d < 16) : hexDigit? (Nat.digitChar d) = some d := by
  revert d
  decide

theorem Text.hexValue?_append (cs ds : List Char) :
    hexValue? (cs ++ ds) = (hexValue? cs).bind fun n =>
      ds.foldlM (fun n c => (hexDigit? c).map (n * 16 + ·)) n := by
  simp [hexValue?, List.foldlM_append]

theorem Text.hexValue?_toDigits (n : Nat) : hexValue? (Nat.toDigits 16 n) = some n := by
  induction n using Nat.strong_induction_on with
  | _ n ih =>
    by_cases hsmall : n < 16
    · rw [Nat.toDigits_of_lt_base hsmall]
      simp [hexValue?, hexDigit?_digitChar hsmall]
    · have hless : n / 16 < n := by omega
      rw [Nat.toDigits_of_base_le (by decide) (by omega), hexValue?_append, ih _ hless]
      simp [hexDigit?_digitChar (Nat.mod_lt n (by decide : 0 < 16))]
      omega

theorem Text.hexValue?_zeros (count : Nat) (cs : List Char) :
    hexValue? (List.replicate count '0' ++ cs) = hexValue? cs := by
  induction count with
  | zero => rfl
  | succ count ih => exact ih

namespace Json

open Reader

/-- Four hexadecimal digits are enough for a code unit. -/
theorem hexChars_four {unit : Nat} (h : unit < 0x10000) :
    ∃ a b c d, hexChars 4 unit = [a, b, c, d] ∧ hex4? a b c d = some unit := by
  have hlength : (Nat.toDigits 16 unit).length ≤ 4 :=
    Nat.toDigits_length 16 unit 4 (by decide) (by simpa using h)
  have hvalue : Text.hexValue? (hexChars 4 unit) = some unit := by
    rw [hexChars, Text.hexValue?_zeros, Text.hexValue?_toDigits]
  have hfour : (hexChars 4 unit).length = 4 := by
    rw [hexChars, List.length_append, List.length_replicate]
    omega
  match hchars : hexChars 4 unit, hfour with
  | [a, b, c, d], _ =>
    rw [hchars] at hvalue
    exact ⟨a, b, c, d, rfl, hvalue⟩

theorem units?_unitEscape {unit : Nat} (h : unit < 0x10000) (rest : List Char) :
    units? (unitEscape unit ++ rest) = (units? rest).map fun (us, rest) => (unit :: us, rest) := by
  obtain ⟨a, b, c, d, hchars, hvalue⟩ := hexChars_four h
  rw [unitEscape, hchars]
  cases hrest : units? rest <;> simp [units?, hvalue, hrest]

theorem units?_plain {c : Char} (hquote : c ≠ '"') (hslash : c ≠ '\\') (hlow : ¬ c.toNat < 0x20)
    (rest : List Char) :
    units? (c :: rest) = (units? rest).map fun (us, rest) => (c.toNat :: us, rest) := by
  rw [units?.eq_def]
  split <;> simp_all

/-- The UTF-16 units of a character. -/
def unitsOf (c : Char) : List Nat :=
  if c.toNat < 0x10000 then [c.toNat]
  else [0xD800 + (c.toNat - 0x10000) / 0x400, 0xDC00 + (c.toNat - 0x10000) % 0x400]

theorem toNat_bounds (c : Char) : c.toNat < 0xD800 ∨ 0xDFFF < c.toNat ∧ c.toNat < 0x110000 :=
  c.valid

theorem units?_escapeChar (c : Char) (rest : List Char) :
    units? (escapeChar c ++ rest) =
      (units? rest).map fun (us, rest) => (unitsOf c ++ us, rest) := by
  unfold escapeChar
  split
  case h_8 hquote hslash _ _ _ _ _ =>
    dsimp only
    split
    · rename_i hplain
      have hsmall : c.toNat < 0x10000 := by omega
      rw [unitsOf, if_pos hsmall]
      exact units?_plain hquote hslash (by omega) rest
    · split
      · rename_i hsmall
        rw [unitsOf, if_pos hsmall, units?_unitEscape hsmall]
        rfl
      · rename_i hlarge
        have hvalid := toNat_bounds c
        rw [unitsOf, if_neg hlarge, List.append_assoc, units?_unitEscape (by omega),
          units?_unitEscape (by omega), Option.map_map]
        rfl
  all_goals
    cases hrest : units? rest <;> simp [units?, shortEscape?, hrest, unitsOf]

theorem joinUnits_unitsOf (c : Char) (us : List Nat) :
    joinUnits (unitsOf c ++ us) = c :: joinUnits us := by
  have hvalid := toNat_bounds c
  have hback : Char.ofNat c.toNat = c := Char.ofNat_toNat c
  unfold unitsOf
  split
  · have hchar : c.toNat.isValidChar := hvalid
    cases us with
    | nil => simp [joinUnits, hchar, hback]
    | cons v rest =>
      have hlone : ¬ (0xD800 ≤ c.toNat ∧ c.toNat < 0xDC00 ∧ 0xDC00 ≤ v ∧ v < 0xE000) := by omega
      simp only [List.singleton_append, joinUnits, if_neg hlone, if_pos hchar, hback]
  · rename_i hlarge
    have hpair : 0x10000 + (0xD800 + (c.toNat - 0x10000) / 0x400 - 0xD800) * 0x400 +
        (0xDC00 + (c.toNat - 0x10000) % 0x400 - 0xDC00) = c.toNat := by omega
    rw [List.cons_append, List.singleton_append, joinUnits, if_pos (by omega), hpair, hback]

theorem units?_quoted (cs rest : List Char) :
    units? (cs.flatMap escapeChar ++ '"' :: rest) = some (cs.flatMap unitsOf, rest) := by
  induction cs with
  | nil => rfl
  | cons c cs ih =>
    rw [List.flatMap_cons, List.append_assoc, units?_escapeChar, ih, List.flatMap_cons]
    rfl

theorem joinUnits_flatMap (cs : List Char) : joinUnits (cs.flatMap unitsOf) = cs := by
  induction cs with
  | nil => rfl
  | cons c cs ih => rw [List.flatMap_cons, joinUnits_unitsOf, ih]

theorem string?_quoted (s : String) (rest : List Char) :
    string? (s.toList.flatMap escapeChar ++ '"' :: rest) = some (s, rest) := by
  rw [string?, units?_quoted, Option.map_some]
  dsimp only
  rw [joinUnits_flatMap, String.ofList_toList]

/-- No string can look like another, or run into what follows it. -/
theorem quoted_append_injective {s t : String} {rest rest' : List Char}
    (h : quoted s ++ rest = quoted t ++ rest') : s = t ∧ rest = rest' := by
  have hchars : s.toList.flatMap escapeChar ++ '"' :: rest =
      t.toList.flatMap escapeChar ++ '"' :: rest' := by
    simpa [quoted] using h
  have hread := string?_quoted s rest
  rw [hchars, string?_quoted, Option.some.injEq, Prod.mk.injEq] at hread
  exact ⟨hread.1.symm, hread.2.symm⟩

end Json

end JsonSchema
