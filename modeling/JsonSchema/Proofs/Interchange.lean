import Mathlib.Data.List.Forall2
import JsonSchema.Proofs.Sameness
import JsonSchema.Proofs.Termination
import JsonSchema.Proofs.Visits

/-! Runs on structurally equal values, side by side. Members may come in another order, so the
violations may as well, but there are some in one run exactly if there are some in the other.
The one place where the spelling of a number can matter is divisibility, which goes by decimal
texts. -/
namespace JsonSchema

namespace Json

theorem Equal.canonicalText_eq {a b : Json} (h : a.Equal b) (ha : a.isProper) (hb : b.isProper) :
    a.canonicalText = b.canonicalText :=
  (canonicalText_eq_iff ha hb).mpr h

/-- Numbers of one value are compared alike, and are integral both or neither. -/
theorem isIntegral_iff {a : Json} (h : a.isNumber) :
    a.isIntegral ↔ ∃ n : Int, a.quantity? = some (.exact n) := by
  cases a with
  | int n => exact iff_of_true rfl ⟨n, rfl⟩
  | float x =>
    rw [isIntegral, Option.isSome_iff_exists]
    exact exists_congr fun n => x.toInt?_eq_some_iff n
  | _ => cases h

/-- Divisibility is that of the decimal texts also between integers. -/
theorem isMultipleOf_eq (value divisor : Json) :
    value.isMultipleOf divisor =
      match value.decimal?, divisor.decimal? with
      | some v, some d => 0 < d && (v / d).den == 1
      | _, _ => false := by
  unfold isMultipleOf
  split
  · rename_i n d
    simp only [decimal?]
    have hsign : (0 < (d : Rat)) ↔ 0 < d := Int.cast_pos
    rcases lt_or_ge 0 d with hpos | hneg
    · have hdvd := Rat.den_div_intCast_eq_one_iff n d hpos.ne'
      rw [Int.dvd_iff_emod_eq_zero] at hdvd
      rw [Bool.eq_iff_iff]
      simp [hpos, hdvd]
    · have hnot : ¬ 0 < d := by omega
      rw [Bool.eq_iff_iff]
      simp [hnot]
  · rfl

end Json

/-- Two nodes that runs come to are one node at one place, and if numbers are divided there,
their decimal texts have the same value. -/
def Visit.DividesAlike (visit visit' : Visit) : Prop :=
  visit.schema = visit'.schema → visit.path = visit'.path →
    (visit.schema.member? "multipleOf").isSome → visit.value.decimal? = visit'.value.decimal?

/-- Runs on two values, above nodes where they agree on whether something is found. -/
structure Interchange where
  answers : Answers
  answers' : Answers
  visits : Visits
  visits' : Visits
  below (tried : Bool) (scope : Scope) (schema : Node) (value value' : Json) (path : Path)
    (violations violations' : List Violation) : value.Equal value' → value.isProper →
      value'.isProper →
      (∀ visit ∈ visits tried scope schema value path,
        ∀ visit' ∈ visits' tried scope schema value' path, visit.DividesAlike visit') →
      answers scope schema value path = .ok violations →
      answers' scope schema value' path = .ok violations' →
      (violations = [] ↔ violations' = [])

/-- Two plans agree on whether something is found. -/
def Plan.Interchanges (runs : Interchange) (tried : Bool) (scope : Scope) (plan plan' : Plan) :
    Prop :=
  ∀ violations violations',
    (∀ visit ∈ plan.visits runs.answers runs.visits tried scope,
      ∀ visit' ∈ plan'.visits runs.answers' runs.visits' tried scope, visit.DividesAlike visit') →
    plan.answer .chain runs.answers scope = .ok violations →
    plan'.answer .chain runs.answers' scope = .ok violations' →
    (violations = [] ↔ violations' = [])

namespace Plan

variable {runs : Interchange} {tried : Bool} {scope : Scope} {plans plans' : List Plan}

theorem clean_interchanges : Interchanges runs tried scope .clean .clean := by
  intro violations violations' _ h h'
  cases h
  cases h'
  rfl

theorem report_interchanges (schema schema' : Node) (value value' : Json) (path path' : Path)
    (finding finding' : Finding) :
    Interchanges runs tried scope (.report schema value path finding)
      (.report schema' value' path' finding') := by
  intro violations violations' _ h h'
  cases h
  cases h'
  simp

theorem fault_interchanges (f : Fault) (plan' : Plan) :
    Interchanges runs tried scope (.fault f) plan' := by
  intro violations violations' _ h _
  cases h

theorem both_interchanges {first first' second second' : Plan}
    (hfirst : Interchanges runs tried scope first first')
    (hsecond : Interchanges runs tried scope second second') :
    Interchanges runs tried scope (.both first second) (.both first' second') := by
  intro violations violations' alike h h'
  obtain ⟨here, there, hhere, hthere, rfl⟩ := answer_both_ok h
  obtain ⟨here', there', hhere', hthere', rfl⟩ := answer_both_ok h'
  have alikeFirst := hfirst here here' (fun visit hvisit visit' hvisit' =>
    alike visit (List.mem_append_left _ hvisit) visit' (List.mem_append_left _ hvisit')) hhere hhere'
  have alikeSecond := hsecond there there' (fun visit hvisit visit' hvisit' =>
    alike visit (List.mem_append_right _ hvisit) visit' (List.mem_append_right _ hvisit'))
    hthere hthere'
  rw [List.append_eq_nil_iff, List.append_eq_nil_iff, alikeFirst, alikeSecond]

theorem mem_visits_all {answers : Answers} {visits : Visits} {plan : Plan} (hplan : plan ∈ plans)
    {visit : Visit} (h : visit ∈ plan.visits answers visits tried scope) :
    visit ∈ (all plans).visits answers visits tried scope := by
  induction plans with
  | nil => cases hplan
  | cons head rest ih =>
    rcases List.mem_cons.mp hplan with rfl | hrest
    · exact List.mem_append_left _ h
    · exact List.mem_append_right _ (ih hrest)

/-- Lists of plans agree if each plan of one agrees with one of the other, in any order. -/
theorem all_interchanges_any
    (forth : ∀ plan ∈ plans, ∃ plan' ∈ plans', Interchanges runs tried scope plan plan')
    (back : ∀ plan' ∈ plans', ∃ plan ∈ plans, Interchanges runs tried scope plan plan') :
    Interchanges runs tried scope (.all plans) (.all plans') := by
  intro violations violations' alike h h'
  obtain ⟨hanswers, hnil⟩ := answer_all_ok h
  obtain ⟨hanswers', hnil'⟩ := answer_all_ok h'
  have hagree : ∀ plan ∈ plans, ∀ plan' ∈ plans', Interchanges runs tried scope plan plan' →
      (plan.answer .chain runs.answers scope = .ok [] ↔
        plan'.answer .chain runs.answers' scope = .ok []) := by
    intro plan hplan plan' hplan' hpair
    obtain ⟨found, hfound⟩ := hanswers plan hplan
    obtain ⟨found', hfound'⟩ := hanswers' plan' hplan'
    have hiff := hpair found found' (fun visit hvisit visit' hvisit' =>
      alike visit (mem_visits_all hplan hvisit) visit' (mem_visits_all hplan' hvisit')) hfound hfound'
    simp only [hfound, hfound', Except.ok.injEq, hiff]
  rw [hnil, hnil']
  constructor
  · intro hclean plan' hplan'
    obtain ⟨plan, hplan, hpair⟩ := back plan' hplan'
    exact (hagree plan hplan plan' hplan' hpair).mp (hclean plan hplan)
  · intro hclean plan hplan
    obtain ⟨plan', hplan', hpair⟩ := forth plan hplan
    exact (hagree plan hplan plan' hplan' hpair).mpr (hclean plan' hplan')

theorem all_interchanges (each : List.Forall₂ (Interchanges runs tried scope) plans plans') :
    Interchanges runs tried scope (.all plans) (.all plans') := by
  induction each with
  | nil => exact clean_interchanges
  | cons hplan _ ih => exact both_interchanges hplan ih

theorem mapped_interchanges {α : Type} {l : List α} {plan plan' : α → Plan}
    (each : ∀ a ∈ l, Interchanges runs tried scope (plan a) (plan' a)) :
    List.Forall₂ (Interchanges runs tried scope) (l.map plan) (l.map plan') := by
  rw [List.forall₂_map_left_iff, List.forall₂_map_right_iff, List.forall₂_same]
  exact each

/-- The same constraints find something in both runs or in neither. -/
theorem settle_interchanges (schema : Node) (value value' : Json) (path : Path)
    (verdicts : List Verdict) :
    Interchanges runs tried scope (.settle schema value path verdicts)
      (.settle schema value' path verdicts) := by
  apply all_interchanges
  apply mapped_interchanges
  intro verdict _
  rcases verdict with f | _ | finding
  · exact fault_interchanges f _
  · exact clean_interchanges
  · exact report_interchanges _ _ _ _ _ _ _ _

theorem enter_interchanges {value value' : Json} (equal : value.Equal value')
    (proper : value.isProper) (proper' : value'.isProper) (schema : Node) (path : Path) :
    Interchanges runs tried scope (.enter schema value path) (.enter schema value' path) :=
  fun violations violations' =>
    runs.below tried scope schema value value' path violations violations' equal proper proper'

theorem follow_interchanges {value value' : Json} (equal : value.Equal value')
    (proper : value.isProper) (proper' : value'.isProper) (link : Link) :
    Interchanges runs tried scope (.follow link value) (.follow link value') := by
  intro violations violations' alike h h'
  cases hfollow : scope.follow link with
  | error f =>
    rw [answer_follow_of_error hfollow] at h
    cases h
  | ok inner =>
    rw [answer_follow_of_ok hfollow] at h h'
    rw [Plan.visits, Plan.visits, hfollow] at alike
    exact runs.below tried inner link.target value value' link.path violations violations' equal
      proper proper' alike h h'

/-- A branch that is tried out is clean in one run exactly if it is in the other, so both go
on in the same way. -/
theorem probe_interchanges {branch branch' : Plan} {next next' : Bool → Plan}
    (hbranch : Interchanges runs true scope branch branch')
    (hnext : ∀ passes, Interchanges runs tried scope (next passes) (next' passes)) :
    Interchanges runs tried scope (.probe branch next) (.probe branch' next') := by
  intro violations violations' alike h h'
  obtain ⟨found, hfound, hrest⟩ := answer_probe_ok h
  obtain ⟨found', hfound', hrest'⟩ := answer_probe_ok h'
  rw [visits_probe hfound, visits_probe hfound'] at alike
  have hiff := hbranch found found' (fun visit hvisit visit' hvisit' =>
    alike visit (List.mem_append_left _ hvisit) visit' (List.mem_append_left _ hvisit'))
    hfound hfound'
  have hsame : found.isEmpty = found'.isEmpty := by
    rw [Bool.eq_iff_iff, List.isEmpty_iff, List.isEmpty_iff, hiff]
  rw [← hsame] at hrest' alike
  exact hnext found.isEmpty violations violations' (fun visit hvisit visit' hvisit' =>
    alike visit (List.mem_append_right _ hvisit) visit' (List.mem_append_right _ hvisit'))
    hrest hrest'

theorem firstClean_interchanges {otherwise otherwise' : Plan}
    (last : Interchanges runs tried scope otherwise otherwise')
    (each : List.Forall₂ (Interchanges runs true scope) plans plans') :
    Interchanges runs tried scope (.firstClean otherwise plans) (.firstClean otherwise' plans') := by
  induction each with
  | nil => exact last
  | cons hplan _ ih =>
    refine probe_interchanges hplan fun passes => ?_
    cases passes with
    | true => exact clean_interchanges
    | false => exact ih

theorem countClean_interchanges {next next' : Nat → Plan}
    (last : ∀ count, Interchanges runs tried scope (next count) (next' count)) (count : Nat)
    (each : List.Forall₂ (Interchanges runs true scope) plans plans') :
    Interchanges runs tried scope (.countClean next count plans)
      (.countClean next' count plans') := by
  induction each generalizing count with
  | nil => exact last count
  | cons hplan _ ih => exact probe_interchanges hplan fun passes => ih _

end Plan

namespace Check

variable {runs : Interchange} {tried : Bool} {scope : Scope} {options : Options} {root schema : Node}
  {value value' : Json} {path : Path}

theorem each_interchanges (equal : value.Equal value') (proper : value.isProper)
    (proper' : value'.isProper) (nodes : List Node) :
    List.Forall₂ (Plan.Interchanges runs tried scope) (each nodes value path)
      (each nodes value' path) :=
  Plan.mapped_interchanges fun node _ => Plan.enter_interchanges equal proper proper' node path

theorem numberVerdicts_congr (quantity : value.quantity? = value'.quantity?)
    (divides : (schema.member? "multipleOf").isSome → value.decimal? = value'.decimal?) :
    numberVerdicts schema value = numberVerdicts schema value' := by
  have hmultiple : multipleOf schema value = multipleOf schema value' := by
    unfold multipleOf
    cases hdivisor : schema.member? "multipleOf" with
    | none => rfl
    | some divisor =>
      have hdecimal := divides (by rw [hdivisor]; rfl)
      rw [Option.bind_some, Option.bind_some, Json.isMultipleOf_eq, Json.isMultipleOf_eq, hdecimal]
  have hlt : ∀ bound : Json, value.lt bound = value'.lt bound ∧ bound.lt value = bound.lt value' := by
    intro bound
    simp only [Json.lt, quantity, and_self]
  have hle : ∀ bound : Json, value.le bound = value'.le bound ∧ bound.le value = bound.le value' := by
    intro bound
    simp only [Json.le, quantity, and_self]
  simp only [numberVerdicts, hmultiple, minimum, exclusiveMinimum, maximum, exclusiveMaximum,
    (hlt _).1, (hlt _).2, (hle _).1, (hle _).2]

theorem uniqueItems_congr {elements elements' : List Json}
    (equal : (Json.arr elements).Equal (.arr elements')) (proper : (Json.arr elements).isProper)
    (proper' : (Json.arr elements').isProper) :
    uniqueItems schema elements = uniqueItems schema elements' := by
  have hcanonical := equal.canonical_eq proper proper'
  simp only [Json.canonical, Json.arr.injEq, Json.canonicalItems_eq_map] at hcanonical
  have htexts : elements.map Json.canonicalText = elements'.map Json.canonicalText := by
    have hboth := congrArg (List.map Json.text) hcanonical
    rwa [List.map_map, List.map_map] at hboth
  rw [uniqueItems, htexts, ← uniqueItems]

/-- Items of equal arrays, each with its place. -/
theorem indexed_interchanges {elements elements' : List Json}
    (equal : (Json.arr elements).Equal (.arr elements')) (plan plan' : Nat → Json → Plan)
    (each : ∀ i item item', elements[i]? = some item → elements'[i]? = some item' →
      item.Equal item' → Plan.Interchanges runs tried scope (plan i item) (plan' i item')) :
    Plan.Interchanges runs tried scope
      (.all ((indexed elements).map fun (i, item) => plan i item))
      (.all ((indexed elements').map fun (i, item) => plan' i item)) := by
  cases equal with
  | number h => cases h
  | arr hlength hitems =>
    refine Plan.all_interchanges (List.forall₂_iff_get.mpr ⟨by simp [indexed, hlength], ?_⟩)
    intro i hi hi'
    have hitem : i < elements.length := by simpa [indexed] using hi
    have hitem' : i < elements'.length := by simpa [indexed] using hi'
    have ha := List.getElem?_eq_getElem hitem
    have hb := List.getElem?_eq_getElem hitem'
    simpa [indexed] using each i _ _ ha hb (hitems i _ _ ha hb)

theorem additionalItem_interchanges (equal : value.Equal value') (proper : value.isProper)
    (proper' : value'.isProper) (additional : Node) (i : Nat) :
    Plan.Interchanges runs tried scope (additionalItem schema additional i value path)
      (additionalItem schema additional i value' path) := by
  unfold additionalItem
  split
  · exact Plan.clean_interchanges
  · exact Plan.clean_interchanges
  · exact Plan.report_interchanges _ _ _ _ _ _ _ _
  · exact Plan.firstClean_interchanges (Plan.report_interchanges _ _ _ _ _ _ _ _)
      (each_interchanges equal proper proper' _)
  · exact Plan.enter_interchanges equal proper proper' _ _

theorem items_interchanges {elements elements' : List Json}
    (equal : (Json.arr elements).Equal (.arr elements')) (proper : (Json.arr elements).isProper)
    (proper' : (Json.arr elements').isProper) :
    Plan.Interchanges runs tried scope (items options schema elements path)
      (items options schema elements' path) := by
  have hproper : ∀ {elements : List Json} {i : Nat} {item : Json}, (Json.arr elements).isProper →
      elements[i]? = some item → item.isProper := fun proper hitem =>
    (Json.areProperItems_iff _).mp proper _ (List.mem_of_getElem? hitem)
  have htuple : ∀ additional tuple,
      Plan.Interchanges runs tried scope (tupleItems schema additional tuple elements path)
        (tupleItems schema additional tuple elements' path) := by
    intro additional tuple
    refine indexed_interchanges equal _ _ fun i item item' hitem hitem' hequal => ?_
    unfold tupleItem
    split
    · exact Plan.enter_interchanges hequal (hproper proper hitem) (hproper proper' hitem') _ _
    · exact additionalItem_interchanges hequal (hproper proper hitem) (hproper proper' hitem') _ _
  unfold items
  dsimp only
  split
  · split
    · exact htuple _ _
    · exact Plan.clean_interchanges
  · split
    · exact htuple _ _
    · refine indexed_interchanges equal (fun i item => .enter _ item (path.index i))
        (fun i item => .enter _ item (path.index i)) fun i item item' hitem hitem' hequal => ?_
      exact Plan.enter_interchanges hequal (hproper proper hitem) (hproper proper' hitem') _ _

theorem array_interchanges {elements elements' : List Json}
    (equal : (Json.arr elements).Equal (.arr elements')) (proper : (Json.arr elements).isProper)
    (proper' : (Json.arr elements').isProper) :
    Plan.Interchanges runs tried scope (array options schema (.arr elements) elements path)
      (array options schema (.arr elements') elements' path) := by
  have hlength : elements.length = elements'.length := by
    cases equal with
    | number h => cases h
    | arr hlength _ => exact hlength
  unfold array
  rw [hlength, uniqueItems_congr equal proper proper']
  exact Plan.both_interchanges (Plan.settle_interchanges _ _ _ _ _)
    (items_interchanges equal proper proper')

section

variable {members members' : Members}

/-- What equal objects have in common. -/
structure SameMembers (members members' : Members) : Prop where
  equal : (Json.obj members).Equal (.obj members')
  proper : (Json.obj members).isProper
  proper' : (Json.obj members').isProper

theorem SameMembers.symm (same : SameMembers members members') : SameMembers members' members :=
  ⟨same.equal.symm, same.proper', same.proper⟩

theorem SameMembers.has_eq (same : SameMembers members members') :
    Members.has members = Members.has members' := by
  cases same.equal with
  | number h => cases h
  | obj hnames _ => exact funext hnames

/-- A member of one object has its like in the other. -/
theorem SameMembers.exists_mem (same : SameMembers members members') {name : String}
    (hmem : (name, value) ∈ members) :
    ∃ value', (name, value') ∈ members' ∧ value.Equal value' := by
  have hlookup := Members.lookup_of_mem ((Json.isProper_obj_iff _).mp same.proper).1 hmem
  cases same.equal with
  | number h => cases h
  | obj hnames hvalues =>
    have hsome := hnames name
    rw [Members.has_eq_isSome_lookup, Members.has_eq_isSome_lookup, hlookup] at hsome
    obtain ⟨value', hvalue'⟩ := Option.isSome_iff_exists.mp hsome.symm
    exact ⟨value', Node.mem_of_lookup hvalue', hvalues name value value' hlookup hvalue'⟩

theorem SameMembers.length_kept (same : SameMembers members members') :
    (kept options members).length = (kept options members').length := by
  have hkeys : (Members.keys members).Perm (Members.keys members') := by
    rw [List.perm_ext_iff_of_nodup ((Json.isProper_obj_iff _).mp same.proper).1
      ((Json.isProper_obj_iff _).mp same.proper').1]
    intro name
    have hhas : ∀ members : Members, name ∈ Members.keys members ↔ Members.has members name := by
      simp [Members.keys, Members.has]
    rw [hhas, hhas, same.has_eq]
  have hlength : ∀ members : Members, (kept options members).length =
      ((Members.keys members).filter fun name => !options.omits name).length := by
    intro members
    rw [Members.keys, List.filter_map, List.length_map]
    rfl
  rw [hlength, hlength, (hkeys.filter _).length_eq]

theorem dependencies_interchanges (same : SameMembers members members') :
    Plan.Interchanges runs tried scope (dependencies options schema members path)
      (dependencies options schema members' path) := by
  unfold dependencies
  rw [same.has_eq]
  apply Plan.all_interchanges
  apply Plan.mapped_interchanges
  intro (owner, declared) _
  dsimp only
  split
  · exact Plan.clean_interchanges
  · apply Plan.all_interchanges
    apply Plan.mapped_interchanges
    intro target _
    unfold dependency
    rw [same.has_eq]
    split
    · split
      · exact Plan.clean_interchanges
      · exact Plan.report_interchanges _ _ _ _ _ _ _ _
    · exact Plan.enter_interchanges same.equal same.proper same.proper' _ _
    · exact Plan.report_interchanges _ _ _ _ _ _ _ _

theorem additionalProperty_interchanges (equal : value.Equal value') (proper : value.isProper)
    (proper' : value'.isProper) (additional : Node) (name : String) :
    Plan.Interchanges runs tried scope
      (additionalProperty schema additional members name value path)
      (additionalProperty schema additional members' name value' path) := by
  unfold additionalProperty
  split
  · exact Plan.clean_interchanges
  · exact Plan.clean_interchanges
  · exact Plan.report_interchanges _ _ _ _ _ _ _ _
  · split
    · split
      · exact Plan.enter_interchanges equal proper proper' _ _
      · exact Plan.report_interchanges _ _ _ _ _ _ _ _
    · exact Plan.enter_interchanges equal proper proper' _ _

theorem property_interchanges (equal : value.Equal value') (proper : value.isProper)
    (proper' : value'.isProper) (patterns : Option (List (Pattern × Node))) (name : String) :
    Plan.Interchanges runs tried scope
      (property options schema members patterns path name value)
      (property options schema members' patterns path name value') := by
  unfold property
  split
  · exact Plan.enter_interchanges equal proper proper' _ _
  · split
    · exact Plan.fault_interchanges _ _
    · exact Plan.enter_interchanges equal proper proper' _ _
    · exact additionalProperty_interchanges equal proper proper' _ _
    · split
      · exact Plan.report_interchanges _ _ _ _ _ _ _ _
      · exact additionalProperty_interchanges equal proper proper' _ _

/-- The members that are kept, each with its like, in whatever order they come. -/
theorem properties_interchange (same : SameMembers members members')
    (patterns : Option (List (Pattern × Node))) :
    Plan.Interchanges runs tried scope
      (.all ((kept options members).map fun (name, value) =>
        property options schema members patterns path name value))
      (.all ((kept options members').map fun (name, value) =>
        property options schema members' patterns path name value)) := by
  have hproper : ∀ {members : Members} {name : String} {value : Json},
      (Json.obj members).isProper → (name, value) ∈ members → value.isProper := fun proper hmem =>
    ((Json.isProper_obj_iff _).mp proper).2 _ hmem
  apply Plan.all_interchanges_any
  · intro plan hplan
    obtain ⟨⟨name, value⟩, hmem, rfl⟩ := List.mem_map.mp hplan
    obtain ⟨hmember, hkept⟩ := List.mem_filter.mp hmem
    obtain ⟨value', hmember', hequal⟩ := same.exists_mem hmember
    exact ⟨_, List.mem_map_of_mem (List.mem_filter.mpr ⟨hmember', hkept⟩),
      property_interchanges hequal (hproper same.proper hmember) (hproper same.proper' hmember') _ _⟩
  · intro plan hplan
    obtain ⟨⟨name, value'⟩, hmem, rfl⟩ := List.mem_map.mp hplan
    obtain ⟨hmember', hkept⟩ := List.mem_filter.mp hmem
    obtain ⟨value, hmember, hequal⟩ := same.symm.exists_mem hmember'
    exact ⟨_, List.mem_map_of_mem (List.mem_filter.mpr ⟨hmember, hkept⟩),
      property_interchanges hequal.symm (hproper same.proper hmember)
        (hproper same.proper' hmember') _ _⟩

theorem object_interchanges (same : SameMembers members members') :
    Plan.Interchanges runs tried scope (object options schema members path)
      (object options schema members' path) := by
  have hrequired : required options schema members = required options schema members' := by
    simp only [required, same.has_eq]
  unfold object
  dsimp only
  rw [hrequired, same.length_kept]
  apply Plan.all_interchanges
  refine .cons ?_ (.cons ?_ (.cons ?_ (.cons ?_ .nil)))
  · exact Plan.settle_interchanges _ _ _ _ _
  · exact dependencies_interchanges same
  · apply Plan.all_interchanges
    apply Plan.mapped_interchanges
    rintro ⟨text, node⟩ -
    dsimp only
    unfold patternName
    split
    · exact Plan.clean_interchanges
    · exact Plan.report_interchanges _ _ _ _ _ _ _ _
    · exact Plan.fault_interchanges _ _
  · exact properties_interchange same _

end

theorem ofType_interchanges (equal : value.Equal value') (proper : value.isProper)
    (proper' : value'.isProper)
    (divides : (schema.member? "multipleOf").isSome → value.decimal? = value'.decimal?)
    (type : SchemaType) :
    Plan.Interchanges runs tried scope (ofType options schema value path type)
      (ofType options schema value' path type) := by
  have hmismatch : ∀ finding finding', Plan.Interchanges runs tried scope
      (.report schema value path finding) (.report schema value' path finding') :=
    Plan.report_interchanges schema schema value value' path path
  cases equal with
  | null =>
    cases type <;> first | exact Plan.clean_interchanges | exact hmismatch _ _
  | bool b =>
    cases type <;> first | exact Plan.clean_interchanges | exact hmismatch _ _
  | str s =>
    cases type <;> first
      | exact Plan.clean_interchanges
      | exact hmismatch _ _
      | exact Plan.settle_interchanges _ _ _ _ _
  | arr hlength hitems =>
    cases type
    case array => exact array_interchanges (.arr hlength hitems) proper proper'
    all_goals first | exact Plan.clean_interchanges | exact hmismatch _ _
  | obj hnames hvalues =>
    cases type
    case object => exact object_interchanges ⟨.obj hnames hvalues, proper, proper'⟩
    all_goals first | exact Plan.clean_interchanges | exact hmismatch _ _
  | number number number' quantity =>
    have hintegral : value.isIntegral = value'.isIntegral := by
      rw [Bool.eq_iff_iff, Json.isIntegral_iff number, Json.isIntegral_iff number', quantity]
    have hverdicts := numberVerdicts_congr quantity divides
    cases type
    case number =>
      rw [ofType, ofType, if_pos number, if_pos number', hverdicts]
      exact Plan.settle_interchanges _ _ _ _ _
    case integer =>
      rw [ofType, ofType, hintegral, hverdicts]
      split
      · exact Plan.settle_interchanges _ _ _ _ _
      · exact hmismatch _ _
    case any => exact Plan.clean_interchanges
    all_goals
      cases value <;> cases number <;> cases value' <;> cases number' <;> exact hmismatch _ _

theorem type_interchanges (equal : value.Equal value') (proper : value.isProper)
    (proper' : value'.isProper)
    (divides : (schema.member? "multipleOf").isSome → value.decimal? = value'.decimal?)
    (named : Json) :
    Plan.Interchanges runs tried scope (Check.type options schema value path named)
      (Check.type options schema value' path named) := by
  unfold Check.type
  split
  · exact ofType_interchanges equal proper proper' divides _
  · exact Plan.report_interchanges _ _ _ _ _ _ _ _

theorem union_interchanges (equal : value.Equal value') (proper : value.isProper)
    (proper' : value'.isProper)
    (divides : (schema.member? "multipleOf").isSome → value.decimal? = value'.decimal?)
    (members : Node) :
    Plan.Interchanges runs tried scope (union options schema members value path)
      (union options schema members value' path) := by
  apply Plan.firstClean_interchanges (Plan.report_interchanges _ _ _ _ _ _ _ _)
  apply Plan.mapped_interchanges
  intro member _
  unfold unionMember
  split
  · exact Plan.enter_interchanges equal proper proper' _ _
  · exact type_interchanges equal proper proper' divides _

theorem enumeration_interchanges (equal : value.Equal value') (proper : value.isProper)
    (proper' : value'.isProper) (members : Node) :
    Plan.Interchanges runs tried scope (enumeration schema members value path)
      (enumeration schema members value' path) := by
  have hsame : ∀ one : Json, one.same value = one.same value' := by
    intro one
    rw [Json.same, Json.same, equal.canonicalText_eq proper proper']
  unfold enumeration
  simp only [hsame]
  split
  · split
    · exact Plan.clean_interchanges
    · exact Plan.report_interchanges _ _ _ _ _ _ _ _
  · exact Plan.report_interchanges _ _ _ _ _ _ _ _

theorem reference_interchanges (equal : value.Equal value') (proper : value.isProper)
    (proper' : value'.isProper) (ref : Json) :
    Plan.Interchanges runs tried scope (reference options root schema ref value path)
      (reference options root schema ref value' path) := by
  unfold reference
  split
  · exact Plan.clean_interchanges
  · split
    · exact Plan.fault_interchanges _ _
    · exact Plan.report_interchanges _ _ _ _ _ _ _ _
    · exact Plan.follow_interchanges equal proper proper' _

theorem governing_interchanges (equal : value.Equal value') (proper : value.isProper)
    (proper' : value'.isProper)
    (divides : (schema.member? "multipleOf").isSome → value.decimal? = value'.decimal?) :
    Plan.Interchanges runs tried scope (governing options root schema value path)
      (governing options root schema value' path) := by
  have hreport : ∀ finding finding', Plan.Interchanges runs tried scope
      (.report schema value path finding) (.report schema value' path finding') :=
    Plan.report_interchanges schema schema value value' path path
  have heach : ∀ tried nodes, List.Forall₂ (Plan.Interchanges runs tried scope)
      (each nodes value path) (each nodes value' path) :=
    fun _ nodes => each_interchanges equal proper proper' nodes
  unfold governing
  split
  · exact enumeration_interchanges equal proper proper' _
  · split
    · unfold oneOf
      split
      · refine Plan.countClean_interchanges (fun count => ?_) 0 (heach true _)
        cases oneOfVerdict count with
        | none => exact Plan.clean_interchanges
        | some finding => exact hreport _ _
      · exact hreport _ _
    · split
      · unfold allOf
        split
        · exact Plan.all_interchanges (heach tried _)
        · exact hreport _ _
      · split
        · unfold anyOf
          split
          · exact Plan.firstClean_interchanges (hreport _ _) (heach true _)
          · exact hreport _ _
        · split
          · exact reference_interchanges equal proper proper' _
          · split
            · exact Plan.clean_interchanges
            · split
              · exact union_interchanges equal proper proper' divides _
              · exact type_interchanges equal proper proper' divides _

theorem node_interchanges (equal : value.Equal value') (proper : value.isProper)
    (proper' : value'.isProper)
    (divides : (schema.member? "multipleOf").isSome → value.decimal? = value'.decimal?) :
    Plan.Interchanges runs tried scope (node options root schema value path)
      (node options root schema value' path) := by
  unfold node
  split
  · exact Plan.clean_interchanges
  · exact Plan.clean_interchanges
  · exact governing_interchanges equal proper proper' divides
  · exact Plan.report_interchanges _ _ _ _ _ _ _ _

/-- By induction on the budget: where the answers below agree on whether something is found,
so do those of a node. -/
theorem answer_interchanges (budget budget' : Nat) (tried : Bool) (scope : Scope) (schema : Node)
    (value value' : Json) (path : Path) (violations violations' : List Violation)
    (equal : value.Equal value') (proper : value.isProper) (proper' : value'.isProper)
    (alike : ∀ visit ∈ visits budget tried scope schema value path,
      ∀ visit' ∈ visits budget' tried scope schema value' path, visit.DividesAlike visit')
    (h : answer .chain budget scope schema value path = .ok violations)
    (h' : answer .chain budget' scope schema value' path = .ok violations') :
    violations = [] ↔ violations' = [] := by
  induction budget generalizing budget' tried scope schema value value' path violations
    violations' with
  | zero => cases h
  | succ budget ih =>
    cases budget' with
    | zero => cases h'
    | succ budget' =>
      let runs : Interchange := ⟨answer .chain budget, answer .chain budget', visits budget,
        visits budget', ih budget'⟩
      rw [answer] at h h'
      rw [visits, visits] at alike
      cases hexceeds : Options.exceeds path.length scope.options.maxDepth with
      | none =>
        rw [hexceeds] at h
        cases h
      | some tooDeep =>
        rw [hexceeds] at h h'
        cases tooDeep with
        | true => cases h
        | false =>
          have divides := alike _ List.mem_cons_self _ List.mem_cons_self rfl rfl
          let inner := scope.withDefinitions (declared schema)
          have hnode : Plan.Interchanges runs tried inner
              (node inner.options inner.root schema value path)
              (node inner.options inner.root schema value' path) :=
            node_interchanges equal proper proper' divides
          refine hnode violations violations' (fun visit hvisit visit' hvisit' => ?_) h h'
          exact alike visit (List.mem_cons_of_mem _ hvisit) visit' (List.mem_cons_of_mem _ hvisit')

end Check

/-- Structurally equal values are valid both or neither, if both validations return and no
number is divided whose decimal text has another value in one of them than in the other. -/
theorem validate_same_value {schema value value' : Json} {given : Given} (same : value.same value')
    (proper : value.isProper) (proper' : value'.isProper)
    (alike : ∀ visit ∈ visited schema value given, ∀ visit' ∈ visited schema value' given,
      visit.DividesAlike visit')
    {heard heard' after after' : List Notice} {violations violations' : List Violation}
    (returns : (validate schema value given).on heard = (.ok violations, after))
    (returns' : (validate schema value' given).on heard' = (.ok violations', after')) :
    violations = [] ↔ violations' = [] := by
  have h := answerWith_of_validate returns
  have h' := answerWith_of_validate returns'
  have equal := (Json.same_iff proper proper').mp same
  unfold answerWith at h h'
  unfold visited at alike
  rcases hopening : opening? schema given with f | _ | options
  · rw [hopening] at h
    cases h
  · rw [hopening] at h h'
    cases h
    cases h'
    rfl
  · rw [hopening] at h h' alike
    exact Check.answer_interchanges _ _ false _ _ _ _ _ _ _ equal proper proper' alike h h'

theorem validate_same_value_even :
    let schema := Json.obj [("items", .obj [("type", .str "number"), ("multipleOf", .int 2)])]
    let value := Json.arr [.int 6, .null]
    let value' := Json.arr [.float (.ofDecimal false 6 0), .null]
    value.same value' ∧ ∃ violation after violation' after',
      (validate schema value .absent).on [] = (.ok [violation], after) ∧
      (validate schema value' .absent).on [] = (.ok [violation'], after') ∧
      ([violation] = [] ↔ [violation'] = []) := by
  intro schema value value'
  have same : value.same value' := by decide +kernel
  have divided : ∀ visit ∈ visited schema value .absent, (visit.schema.member? "multipleOf").isSome →
      visit.value.decimal? = if visit.path = [.index 0] then some 6 else none := by decide +kernel
  have divided' : ∀ visit ∈ visited schema value' .absent,
      (visit.schema.member? "multipleOf").isSome →
      visit.value.decimal? = if visit.path = [.index 0] then some 6 else none := by decide +kernel
  have alike : ∀ visit ∈ visited schema value .absent, ∀ visit' ∈ visited schema value' .absent,
      visit.DividesAlike visit' := by
    intro visit hvisit visit' hvisit' hschema hpath hdivides
    rw [divided visit hvisit hdivides, divided' visit' hvisit' (hschema ▸ hdivides), hpath]
  have hcount : ∀ value : Json,
      Check.kindsOf ((validate schema value .absent).on []).1 = [.type] →
        ∃ violation after, (validate schema value .absent).on [] = (.ok [violation], after) := by
    intro value h
    obtain ⟨violation, hok, -⟩ := Check.kindsOf_eq_singleton.mp h
    exact ⟨violation, _, Prod.ext hok rfl⟩
  obtain ⟨violation, after, returns⟩ := hcount value (by decide +kernel)
  obtain ⟨violation', after', returns'⟩ := hcount value' (by decide +kernel)
  exact ⟨same, violation, after, violation', after', returns, returns',
    validate_same_value same (by decide +kernel) (by decide +kernel) alike returns returns'⟩

/-- The power of two at 60 is a multiple of 1024, but its shortest decimal text as a double,
1.152921504606847e+18, is not. -/
theorem multipleOf_tells_spellings_apart :
    let schema := Json.obj [("type", .str "number"), ("multipleOf", .int 1024)]
    let value := Json.int 1152921504606846976
    let value' := Json.float (.ofDecimal false 1152921504606846976 0)
    value.same value' ∧ ((validate schema value .absent).on []).1 = .ok [] ∧
      ∃ violation, ((validate schema value' .absent).on []).1 = .ok [violation] ∧
        violation.kind = .multipleOf := by
  intro schema value value'
  exact ⟨by decide +kernel, Check.isClean_iff.mp (by decide +kernel),
    Check.kindsOf_eq_singleton.mp (by decide +kernel)⟩

end JsonSchema
