import Mathlib
import JsonSchema.Proofs.WholeText

/-! Addresses. An address of the older kind is four numbers up to 255 with points between them,
one of the newer kind eight groups of hexadecimal digits with colons between them. -/
namespace JsonSchema.Format

open Pattern Expr

/-- One to three digits of a number up to 255; zeros may stand in front. -/
@[mk_iff]
structure IsOctet (cs : List Char) : Prop where
  nonempty : cs ≠ []
  length : cs.length ≤ 3
  digits : ∀ c ∈ cs, c.isDigit
  value : Nat.ofDigitChars 10 cs 0 ≤ 255

/-- One to four hexadecimal digits, of either case. -/
structure IsHexGroup (cs : List Char) : Prop where
  nonempty : cs ≠ []
  length : cs.length ≤ 4
  digits : ∀ c ∈ cs, (Text.hexDigit? c).isSome

def IsIpAddress : List Char → Prop :=
  IsJoined '.' IsOctet 4

def IsIpv6 : List Char → Prop :=
  IsJoined ':' IsHexGroup 8

def digitUpTo (last : Char) : CharTest :=
  .set .none false [.range '0'.toNat last.toNat] false

def zeroOrOne : CharTest :=
  .set .none false [.point '0'.toNat, .point '1'.toNat] false

theorem digitUpTo_accepts (last c : Char) :
    (digitUpTo last).accepts c ↔ '0'.toNat ≤ c.toNat ∧ c.toNat ≤ last.toNat := by
  simp [digitUpTo, CharTest.accepts, Member.holds]

theorem zeroOrOne_accepts (c : Char) :
    zeroOrOne.accepts c ↔ c.toNat = '0'.toNat ∨ c.toNat = '1'.toNat := by
  simp [zeroOrOne, CharTest.accepts, Member.holds]

def octets : Language Char :=
  {w | IsOctet w}

/-- Numbers from 250, from 200 to 249, and those below with at most one more digit in front
or behind. -/
def octetExpr : Expr :=
  .alt (.seq (.one (.only '2')) (.seq (.one (.only '5')) (.seq (.one (digitUpTo '5')) .empty)))
    (.alt (.seq (.one (.only '2')) (.seq (.one (digitUpTo '4'))
        (.seq (.one (digitUpTo '9')) .empty)))
      (.alt (.seq (.many .greedy 0 (some 1) zeroOrOne) (.seq (.one (digitUpTo '9'))
          (.seq (.many .greedy 0 (some 1) (digitUpTo '9')) .empty)))
        .never))

/-- The ways to write an octet, by their length. -/
theorem octetExpr_language :
    octetExpr.language =
      (CharTest.only '2').language * ((CharTest.only '5').language * (digitUpTo '5').language) +
      ((CharTest.only '2').language * ((digitUpTo '4').language * (digitUpTo '9').language) +
      ((digitUpTo '9').language + zeroOrOne.language * (digitUpTo '9').language +
      ((digitUpTo '9').language * (digitUpTo '9').language +
        zeroOrOne.language * ((digitUpTo '9').language * (digitUpTo '9').language)))) := by
  simp only [octetExpr, language_alt, language_seq, language_one, language_many, language_empty,
    language_never, CharTest.runs_optional, mul_one, add_zero, add_mul, mul_add, one_mul]

/-- By the number of digits. What is left in each case is a comparison of numbers. -/
theorem octet_language : octetExpr.language = octets := by
  ext w
  change _ ↔ IsOctet w
  match w with
  | [] => simp [octetExpr_language, Language.mem_add, isOctet_iff]
  | [a] =>
    have hexpr : [a] ∈ octetExpr.language ↔ 48 ≤ a.toNat ∧ a.toNat ≤ 57 := by
      simp [octetExpr_language, Language.mem_add, digitUpTo_accepts]
    have hoctet : IsOctet [a] ↔ (48 ≤ a.toNat ∧ a.toNat ≤ 57) ∧ a.toNat - 48 ≤ 255 := by
      simp [isOctet_iff, Char.isDigit_iff_toNat, Nat.ofDigitChars]
    rw [hexpr, hoctet]
    omega
  | [a, b] =>
    have hexpr : [a, b] ∈ octetExpr.language ↔
        (a.toNat = 48 ∨ a.toNat = 49) ∧ (48 ≤ b.toNat ∧ b.toNat ≤ 57) ∨
          (48 ≤ a.toNat ∧ a.toNat ≤ 57) ∧ 48 ≤ b.toNat ∧ b.toNat ≤ 57 := by
      simp [octetExpr_language, Language.mem_add, digitUpTo_accepts, zeroOrOne_accepts]
    have hoctet : IsOctet [a, b] ↔
        ((48 ≤ a.toNat ∧ a.toNat ≤ 57) ∧ 48 ≤ b.toNat ∧ b.toNat ≤ 57) ∧
          10 * (a.toNat - 48) + (b.toNat - 48) ≤ 255 := by
      simp [isOctet_iff, Char.isDigit_iff_toNat, Nat.ofDigitChars]
    rw [hexpr, hoctet]
    omega
  | [a, b, c] =>
    have hexpr : [a, b, c] ∈ octetExpr.language ↔
        a.toNat = 50 ∧ b.toNat = 53 ∧ (48 ≤ c.toNat ∧ c.toNat ≤ 53) ∨
        a.toNat = 50 ∧ (48 ≤ b.toNat ∧ b.toNat ≤ 52) ∧ (48 ≤ c.toNat ∧ c.toNat ≤ 57) ∨
        (a.toNat = 48 ∨ a.toNat = 49) ∧ (48 ≤ b.toNat ∧ b.toNat ≤ 57) ∧
          48 ≤ c.toNat ∧ c.toNat ≤ 57 := by
      simp [octetExpr_language, Language.mem_add, digitUpTo_accepts, zeroOrOne_accepts,
        CharTest.only_accepts]
    have hoctet : IsOctet [a, b, c] ↔
        ((48 ≤ a.toNat ∧ a.toNat ≤ 57) ∧ (48 ≤ b.toNat ∧ b.toNat ≤ 57) ∧
          48 ≤ c.toNat ∧ c.toNat ≤ 57) ∧
          10 * (10 * (a.toNat - 48) + (b.toNat - 48)) + (c.toNat - 48) ≤ 255 := by
      simp [isOctet_iff, Char.isDigit_iff_toNat, Nat.ofDigitChars]
    rw [hexpr, hoctet]
    omega
  | _ :: _ :: _ :: _ :: _ => simp [octetExpr_language, Language.mem_add, isOctet_iff]

def hexDigit : CharTest :=
  .set .none false
    [.range '0'.toNat '9'.toNat, .range 'A'.toNat 'F'.toNat, .range 'a'.toNat 'f'.toNat] false

theorem hexDigit_accepts (c : Char) : hexDigit.accepts c ↔ (Text.hexDigit? c).isSome := by
  have htest :
      hexDigit.accepts c ↔ ('0' ≤ c ∧ c ≤ '9') ∨ ('A' ≤ c ∧ c ≤ 'F') ∨ 'a' ≤ c ∧ c ≤ 'f' := by
    simp only [Char.le_def, UInt32.le_iff_toNat_le]
    simp [hexDigit, CharTest.accepts, Member.holds]
  rw [htest]
  unfold Text.hexDigit?
  split_ifs <;> simp_all

def hexGroup : Expr :=
  .many .greedy 1 (some 4) hexDigit

def hexGroups : Language Char :=
  {w | IsHexGroup w}

theorem hexGroup_language : hexGroup.language = hexGroups := by
  ext w
  constructor
  · rintro ⟨hlow, hhigh, haccepts⟩
    exact ⟨List.ne_nil_of_length_pos hlow, hhigh 4 rfl,
      fun c hc => (hexDigit_accepts c).mp (haccepts c hc)⟩
  · rintro ⟨nonempty, hlength, hdigits⟩
    exact ⟨List.length_pos_iff.mpr nonempty,
      fun most hmost => hlength.trans_eq (Option.some.inj hmost),
      fun c hc => (hexDigit_accepts c).mpr (hdigits c hc)⟩

/-- Four octets with points between them. -/
def ipAddressParts : List Expr :=
  [octetExpr, .one (.only '.'), octetExpr, .one (.only '.'), octetExpr, .one (.only '.'), octetExpr]

theorem ipAddress_language (w : List Char) : w ∈ languageAll ipAddressParts ↔ IsIpAddress w := by
  have hparts : languageAll ipAddressParts = (octets * {['.']}) ^ 3 * octets := by
    simp [ipAddressParts, octet_language, CharTest.language_only, pow_succ, mul_assoc]
  rw [hparts]
  exact mem_pow_mul_iff

/-- Seven groups with a colon behind each, and one more. -/
def ipv6Parts : List Expr :=
  [.loop .greedy 7 (some 7) (.seq hexGroup (.seq (.one (.only ':')) .empty)), hexGroup]

theorem ipv6_language (w : List Char) : w ∈ languageAll ipv6Parts ↔ IsIpv6 w := by
  have hparts : languageAll ipv6Parts = (hexGroups * {[':']}) ^ 7 * hexGroups := by
    simp [ipv6Parts, hexGroup_language, CharTest.language_only, remaining_exactly]
  rw [hparts]
  exact mem_pow_mul_iff

set_option maxRecDepth 2000 in
theorem ofText?_ipAddressText :
    ofText? ipAddressText = .ok ⟨whole ipAddressParts, 7, ⟨6, none⟩⟩ := by
  cbv

theorem ofText?_ipv6Text : ofText? ipv6Text = .ok ⟨whole ipv6Parts, 15, ⟨14, none⟩⟩ := by
  cbv

theorem ip_addresses :
    Decides "ip-address" IsIpAddress ∧ Decides "ipv6" IsIpv6 ∧
      ∀ cs, ¬ IsIpAddress (cs ++ ['\n']) ∧ ¬ IsIpv6 (cs ++ ['\n']) := by
  refine ⟨?_, ?_, fun cs => ⟨?_, ?_⟩⟩
  · exact decides_of_whole rfl ofText?_ipAddressText (by decide) (by decide) (by decide)
      ipAddress_language
  · exact decides_of_whole rfl ofText?_ipv6Text (by decide) (by decide) (by decide) ipv6_language
  · intro h
    have hnone : '\n' ∉ cs ++ ['\n'] :=
      h.notMem (by decide) fun _ hoctet hmem => absurd (hoctet.digits '\n' hmem) (by decide)
    exact hnone (List.mem_append_right cs List.mem_cons_self)
  · intro h
    have hnone : '\n' ∉ cs ++ ['\n'] :=
      h.notMem (by decide) fun _ hgroup hmem => absurd (hgroup.digits '\n' hmem) (by decide)
    exact hnone (List.mem_append_right cs List.mem_cons_self)

end JsonSchema.Format
