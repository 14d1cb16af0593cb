import JsonSchema.Json.Canonical
import JsonSchema.Json.Proper
import JsonSchema.Proofs.Inside
import JsonSchema.Proofs.Unambiguous

/-! Canonical texts are a complete invariant: two values have the same one exactly if they
are structurally equal. -/
namespace JsonSchema

namespace Double

theorem magnitude_nonneg (rank : Nat) : 0 ≤ magnitude rank := by
  unfold magnitude
  positivity

theorem magnitude_eq_iff (rank : Nat) (n : Int) :
    magnitude rank = n ↔ numerator rank % denominator = 0 ∧
      ((numerator rank / denominator : Nat) : Int) = n := by
  have hcast : ∀ m d : Nat, (m : Rat) = n * d ↔ (m : Int) = n * d := by
    intro m d
    norm_cast
  have hden : (denominator : Rat) ≠ 0 := Nat.cast_ne_zero.mpr denominator_pos.ne'
  have hwhole : magnitude rank = n ↔ (numerator rank : Int) = n * denominator := by
    rw [magnitude, div_eq_iff hden]
    exact hcast (numerator rank) denominator
  have hdenInt : (denominator : Int) ≠ 0 := Nat.cast_ne_zero.mpr denominator_pos.ne'
  rw [hwhole, ← Nat.dvd_iff_mod_eq_zero]
  constructor
  · intro h
    have hdvd : denominator ∣ numerator rank := by
      rw [← Int.natCast_dvd_natCast, h]
      exact Int.dvd_mul_left _ _
    refine ⟨hdvd, ?_⟩
    rw [Int.natCast_ediv, h, Int.mul_ediv_cancel _ hdenInt]
  · rintro ⟨hdvd, hquotient⟩
    rw [← hquotient, ← Nat.cast_mul, Nat.div_mul_cancel hdvd]

/-- The doubles without a fractional part are the exact values of their integers. -/
theorem toInt?_eq_some_iff (x : Double) (n : Int) :
    x.toInt? = some n ↔ x.quantity? = some (.exact n) := by
  cases x with
  | nan => simp [toInt?, quantity?]
  | infinity negative => cases negative <;> simp [toInt?, quantity?]
  | finite negative rank =>
    have hquantity : quantity? (.finite negative rank) = some (.exact n) ↔
        magnitude rank = ((if negative then -n else n : Int) : Rat) := by
      cases negative with
      | false => simp [quantity?, toRat?]
      | true => simp [quantity?, toRat?, neg_eq_iff_eq_neg]
    rw [hquantity, magnitude_eq_iff, toInt?]
    generalize numerator rank = above
    generalize denominator = below
    cases negative <;> simp [neg_eq_iff_eq_neg]

/-- A double with a fractional part, or without a value, is alone in its value. -/
theorem eq_of_quantity? {x y : Double} (hx : x.toInt? = none) (h : x.quantity? = y.quantity?) :
    x = y := by
  have hfinite : ∀ {negative : Bool} {rank : Fin ranks},
      quantity? (.finite negative rank) =
        some (.exact (if negative then -magnitude rank else magnitude rank)) := rfl
  rcases x with _ | negative | ⟨negative, rank⟩ <;>
    rcases y with _ | negative' | ⟨negative', rank'⟩
  case finite.finite =>
    have hzero : magnitude rank ≠ 0 := by
      intro hzero
      have hnone := (toInt?_eq_some_iff (.finite negative rank) 0).not.mp (by simp [hx])
      simp [hfinite, hzero] at hnone
    have hpos := magnitude_nonneg rank
    have hpos' := magnitude_nonneg rank'
    rw [hfinite, hfinite, Option.some.injEq, Quantity.exact.injEq] at h
    cases negative <;> cases negative'
    · rw [Fin.ext (magnitude_injective h)]
    · refine absurd (le_antisymm ?_ hpos) hzero
      rw [show magnitude rank = -magnitude rank' from h]
      exact neg_nonpos.mpr hpos'
    · refine absurd (le_antisymm ?_ hpos) hzero
      rw [← neg_nonneg, show -magnitude rank = magnitude rank' from h]
      exact hpos'
    · rw [Fin.ext (magnitude_injective (neg_inj.mp h))]
  all_goals
    (try cases negative) <;> (try cases negative') <;> simp_all [quantity?, toRat?]

end Double

namespace Json

/-- Structural equality: numbers count by their value, however they are written, and
members by their names, in whatever order. -/
inductive Equal : Json → Json → Prop
  | null : Equal .null .null
  | bool (b : Bool) : Equal (.bool b) (.bool b)
  | number {a b : Json} : a.isNumber → b.isNumber → a.quantity? = b.quantity? → Equal a b
  | str (s : String) : Equal (.str s) (.str s)
  | arr {items items' : List Json} : items.length = items'.length →
      (∀ (i : Nat) item item', items[i]? = some item → items'[i]? = some item' → Equal item item') →
      Equal (.arr items) (.arr items')
  | obj {members members' : Members} :
      (∀ name, Members.has members name = Members.has members' name) →
      (∀ name value value', members.lookup name = some value →
        members'.lookup name = some value' → Equal value value') →
      Equal (.obj members) (.obj members')

theorem Equal.symm {a b : Json} (h : a.Equal b) : b.Equal a := by
  induction h with
  | null => exact .null
  | bool b => exact .bool b
  | str s => exact .str s
  | number ha hb hquantity => exact .number hb ha hquantity.symm
  | arr hlength _ ih =>
    exact .arr hlength.symm fun i item item' hitem hitem' => ih i item' item hitem' hitem
  | obj hnames _ ih =>
    exact .obj (fun name => (hnames name).symm)
      fun name value value' hvalue hvalue' => ih name value' value hvalue' hvalue

theorem canonicalItems_eq_map (items : List Json) : canonicalItems items = items.map canonical := by
  induction items with
  | nil => rfl
  | cons item rest ih => rw [canonicalItems, ih, List.map_cons]

theorem canonicalMembers_eq_map (members : Members) :
    canonicalMembers members = members.map fun member => (member.1, member.2.canonical) := by
  induction members with
  | nil => rfl
  | cons member rest ih => rw [canonicalMembers, ih, List.map_cons]

theorem sortMembers_perm (members : Members) : (sortMembers members).Perm members :=
  List.mergeSort_perm members _

/-- Members with distinct names have one order only. -/
theorem sortMembers_congr {members members' : Members} (distinct : (Members.keys members).Nodup)
    (h : members.Perm members') : sortMembers members = sortMembers members' := by
  have hsorted : ∀ members : Members,
      (sortMembers members).Pairwise fun a b => decide (a.1 ≤ b.1) = true := by
    intro members
    refine List.pairwise_mergeSort (fun a b c hab hbc => ?_) (fun a b => ?_) members
    · exact decide_eq_true (String.le_trans (of_decide_eq_true hab) (of_decide_eq_true hbc))
    · simpa using String.le_total a.1 b.1
  have hperm := (sortMembers_perm members).trans (h.trans (sortMembers_perm members').symm)
  refine List.Perm.eq_of_pairwise (fun a b ha hb hab hba => ?_) (hsorted members)
    (hsorted members') hperm
  have hname : a.1 = b.1 := String.le_antisymm (of_decide_eq_true hab) (of_decide_eq_true hba)
  have ha' := Members.lookup_of_mem distinct ((sortMembers_perm members).mem_iff.mp ha)
  have hb' := Members.lookup_of_mem distinct
    (h.mem_iff.mpr ((sortMembers_perm members').mem_iff.mp hb))
  rw [hname, hb'] at ha'
  exact Prod.ext hname (Option.some.inj ha').symm

/-- What integers and other numbers come to in canonical form. -/
theorem canonical_number {a : Json} (h : a.isNumber) :
    (∃ n, a.canonical = .int n ∧ a.quantity? = some (.exact (n : Int))) ∨
      ∃ x, a = .float x ∧ a.canonical = .float x ∧ x.toInt? = none := by
  cases a with
  | int n => exact .inl ⟨n, rfl, rfl⟩
  | float x =>
    cases hx : x.toInt? with
    | some n => exact .inl ⟨n, by simp [canonical, hx], (x.toInt?_eq_some_iff n).mp hx⟩
    | none => exact .inr ⟨x, rfl, by simp [canonical, hx], hx⟩
  | _ => cases h

theorem canonical_eq_of_quantity? {a b : Json} (ha : a.isNumber) (hb : b.isNumber)
    (h : a.quantity? = b.quantity?) : a.canonical = b.canonical := by
  rcases canonical_number ha with ⟨n, hcanonical, hquantity⟩ | ⟨x, rfl, hcanonical, hx⟩ <;>
    rcases canonical_number hb with ⟨m, hcanonical', hquantity'⟩ | ⟨y, rfl, hcanonical', hy⟩
  · have hsame : (n : Rat) = (m : Rat) := by
      rw [hquantity, hquantity'] at h
      simpa using h
    rw [hcanonical, hcanonical', Int.cast_injective hsame]
  · rw [hquantity] at h
    rw [(y.toInt?_eq_some_iff n).mpr h.symm] at hy
    cases hy
  · rw [hquantity'] at h
    rw [(x.toInt?_eq_some_iff m).mpr h] at hx
    cases hx
  · rw [hcanonical, hcanonical', Double.eq_of_quantity? hx h]

theorem quantity?_eq_of_canonical {a b : Json} (ha : a.isNumber) (h : a.canonical = b.canonical) :
    b.isNumber ∧ a.quantity? = b.quantity? := by
  have hquantity : ∀ c : Json, c.isNumber → c.canonical.quantity? = c.quantity? := by
    intro c hc
    rcases canonical_number hc with ⟨n, hcanonical, hvalue⟩ | ⟨x, rfl, hcanonical, hx⟩
    · rw [hcanonical, hvalue]
      rfl
    · rw [hcanonical]
  have hb : b.isNumber := by
    rcases canonical_number ha with ⟨n, hcanonical, _⟩ | ⟨x, rfl, hcanonical, hx⟩ <;>
      rw [hcanonical] at h <;> cases b <;> simp_all [canonical, isNumber]
  exact ⟨hb, by rw [← hquantity a ha, h, hquantity b hb]⟩

theorem keys_canonicalMembers (members : Members) :
    Members.keys (canonicalMembers members) = Members.keys members := by
  rw [canonicalMembers_eq_map, Members.keys, List.map_map]
  rfl

theorem lookup_canonicalMembers (members : Members) (name : String) :
    (canonicalMembers members).lookup name = (members.lookup name).map canonical := by
  induction members with
  | nil => rfl
  | cons member rest ih =>
    obtain ⟨key, value⟩ := member
    rw [canonicalMembers, List.lookup_cons, List.lookup_cons, ih]
    split <;> rfl

theorem mem_canonicalMembers {members : Members} (distinct : (Members.keys members).Nodup)
    {name : String} {value : Json} :
    (name, value) ∈ canonicalMembers members ↔
      (members.lookup name).map canonical = some value := by
  rw [← keys_canonicalMembers] at distinct
  rw [← lookup_canonicalMembers]
  exact ⟨Members.lookup_of_mem distinct, Node.mem_of_lookup⟩

theorem getElem?_canonicalItems (items : List Json) (i : Nat) :
    (canonicalItems items)[i]? = items[i]?.map canonical := by
  rw [canonicalItems_eq_map, List.getElem?_map]

/-- Objects have one canonical form exactly if their members do, name by name. -/
theorem canonical_obj_eq_iff {members members' : Members} (distinct : (Members.keys members).Nodup)
    (distinct' : (Members.keys members').Nodup) :
    (Json.obj members).canonical = (Json.obj members').canonical ↔
      ∀ name, (members.lookup name).map canonical = (members'.lookup name).map canonical := by
  have hnodup : ∀ {members : Members}, (Members.keys members).Nodup →
      (canonicalMembers members).Nodup := by
    intro members distinct
    rw [← keys_canonicalMembers] at distinct
    exact List.Nodup.of_map _ distinct
  rw [canonical, canonical, Json.obj.injEq]
  constructor
  · intro h name
    have hperm : (canonicalMembers members).Perm (canonicalMembers members') :=
      (sortMembers_perm _).symm.trans (h ▸ sortMembers_perm _)
    refine Option.ext fun value => ?_
    rw [← mem_canonicalMembers distinct, ← mem_canonicalMembers distinct', hperm.mem_iff]
  · intro h
    refine sortMembers_congr (by rwa [keys_canonicalMembers]) ?_
    rw [List.perm_ext_iff_of_nodup (hnodup distinct) (hnodup distinct')]
    intro (name, value)
    rw [mem_canonicalMembers distinct, mem_canonicalMembers distinct', h name]

theorem equal_of_canonical {a b : Json} (ha : a.isProper) (hb : b.isProper)
    (h : a.canonical = b.canonical) : a.Equal b := by
  induction a using induction_parts generalizing b with
  | whole a ih =>
    by_cases hnumber : a.isNumber
    · obtain ⟨hnumber', hquantity⟩ := quantity?_eq_of_canonical hnumber h
      exact .number hnumber hnumber' hquantity
    by_cases hnumber' : b.isNumber
    · exact absurd (quantity?_eq_of_canonical hnumber' h.symm).1 hnumber
    have whole := h
    cases a <;> cases b <;> simp only [canonical, reduceCtorEq, isNumber, not_true_eq_false,
      Json.bool.injEq, Json.str.injEq, Json.arr.injEq] at h hnumber hnumber'
    case null.null => exact .null
    case bool.bool b b' => exact h ▸ .bool b
    case str.str s t => exact h ▸ .str s
    case arr.arr items items' =>
      refine .arr ?_ fun i item item' hitem hitem' => ?_
      · simpa [canonicalItems_eq_map] using congrArg List.length h
      · have hpart : (Json.arr items).Part (.index i) item := .item hitem
        have hpart' : (Json.arr items').Part (.index i) item' := .item hitem'
        have hboth := congrArg (·[i]?) h
        simp only [getElem?_canonicalItems, hitem, hitem', Option.map_some,
          Option.some.injEq] at hboth
        exact ih _ _ hpart (hpart.isProper ha) (hpart'.isProper hb) hboth
    case obj.obj members members' =>
      have hlookup := (canonical_obj_eq_iff ((isProper_obj_iff _).mp ha).1
        ((isProper_obj_iff _).mp hb).1).mp whole
      refine .obj (fun name => ?_) fun name value value' hvalue hvalue' => ?_
      · have hsome := congrArg Option.isSome (hlookup name)
        rw [Members.has_eq_isSome_lookup, Members.has_eq_isSome_lookup]
        simpa using hsome
      · have hpart : (Json.obj members).Part (.key name) value := .member (Node.mem_of_lookup hvalue)
        have hpart' : (Json.obj members').Part (.key name) value' :=
          .member (Node.mem_of_lookup hvalue')
        have hboth := hlookup name
        rw [hvalue, hvalue', Option.map_some, Option.map_some, Option.some.injEq] at hboth
        exact ih _ _ hpart (hpart.isProper ha) (hpart'.isProper hb) hboth

theorem Equal.canonical_eq {a b : Json} (h : a.Equal b) (ha : a.isProper) (hb : b.isProper) :
    a.canonical = b.canonical := by
  induction h with
  | null => rfl
  | bool b => rfl
  | str s => rfl
  | number hnumber hnumber' hquantity =>
    exact canonical_eq_of_quantity? hnumber hnumber' hquantity
  | @arr items items' hlength heach ih =>
    rw [canonical, canonical]
    refine congrArg Json.arr (List.ext_getElem? fun i => ?_)
    rw [getElem?_canonicalItems, getElem?_canonicalItems]
    cases hitem : items[i]? with
    | none =>
      rw [List.getElem?_eq_none_iff, hlength, ← List.getElem?_eq_none_iff] at hitem
      rw [hitem]
    | some item =>
      obtain ⟨item', hitem'⟩ : ∃ item', items'[i]? = some item' := by
        have hi := (List.getElem?_eq_some_iff.mp hitem).1
        exact ⟨_, List.getElem?_eq_getElem (hlength ▸ hi)⟩
      have hpart : (Json.arr items).Part (.index i) item := .item hitem
      have hpart' : (Json.arr items').Part (.index i) item' := .item hitem'
      rw [hitem', Option.map_some, Option.map_some,
        ih i item item' hitem hitem' (hpart.isProper ha) (hpart'.isProper hb)]
  | @obj members members' hnames heach ih =>
    rw [canonical_obj_eq_iff ((isProper_obj_iff _).mp ha).1 ((isProper_obj_iff _).mp hb).1]
    intro name
    have hname := hnames name
    rw [Members.has_eq_isSome_lookup, Members.has_eq_isSome_lookup] at hname
    cases hvalue : members.lookup name with
    | none =>
      rw [hvalue] at hname
      cases hvalue' : members'.lookup name with
      | none => rfl
      | some value' =>
        rw [hvalue'] at hname
        cases hname
    | some value =>
      rw [hvalue] at hname
      obtain ⟨value', hvalue'⟩ := Option.isSome_iff_exists.mp hname.symm
      have hpart : (Json.obj members).Part (.key name) value := .member (Node.mem_of_lookup hvalue)
      have hpart' : (Json.obj members').Part (.key name) value' :=
        .member (Node.mem_of_lookup hvalue')
      rw [hvalue', Option.map_some, Option.map_some,
        ih name value value' hvalue hvalue' (hpart.isProper ha) (hpart'.isProper hb)]

/-- Canonical texts are a complete invariant of structural equality. -/
theorem canonicalText_eq_iff {a b : Json} (ha : a.isProper) (hb : b.isProper) :
    a.canonicalText = b.canonicalText ↔ a.Equal b :=
  ⟨fun h => equal_of_canonical ha hb (text_injective h),
    fun h => congrArg Json.text (h.canonical_eq ha hb)⟩

theorem same_iff {a b : Json} (ha : a.isProper) (hb : b.isProper) : a.same b ↔ a.Equal b := by
  rw [same, beq_iff_eq, canonicalText_eq_iff ha hb]

end Json

end JsonSchema
