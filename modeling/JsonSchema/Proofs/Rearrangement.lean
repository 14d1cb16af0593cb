import Mathlib.Data.List.Perm.Basic
import JsonSchema.Proofs.Equality
import JsonSchema.Proofs.Parallel
import JsonSchema.Proofs.Visits

/-! The order of the members of objects in a value. It is the order in which members are gone
through, so violations can come in another order, and of several faults another can be the
first; nothing else depends on it. -/
namespace JsonSchema

namespace Json

/-- Values that differ in the order of the members of objects, at any depth. -/
inductive Rearranged : Json → Json → Prop
  | refl (value : Json) : Rearranged value value
  | trans {a b c : Json} : Rearranged a b → Rearranged b c → Rearranged a c
  | members {members members' : Members} : members.Perm members' →
      Rearranged (.obj members) (.obj members')
  | item (before after : List Json) {item item' : Json} : Rearranged item item' →
      Rearranged (.arr (before ++ item :: after)) (.arr (before ++ item' :: after))
  | member (before after : Members) (name : String) {value value' : Json} :
      Rearranged value value' →
      Rearranged (.obj (before ++ (name, value) :: after)) (.obj (before ++ (name, value') :: after))

/-- Members of one name whose values differ in the order of members. -/
def RearrangedMember (member member' : String × Json) : Prop :=
  member.1 = member'.1 ∧ member.2.Rearranged member'.2

/-- Members that can be put in order so that each has its like in the same place. -/
def RearrangedMembers (members members' : Members) : Prop :=
  ∃ middle, List.Forall₂ RearrangedMember members middle ∧ middle.Perm members'

theorem forall₂_rearranged_refl (items : List Json) : List.Forall₂ Rearranged items items :=
  List.forall₂_same.mpr fun item _ => .refl item

theorem forall₂_rearrangedMember_refl (members : Members) :
    List.Forall₂ RearrangedMember members members :=
  List.forall₂_same.mpr fun member _ => ⟨rfl, .refl member.2⟩

theorem forall₂_trans {α : Type} {related : α → α → Prop}
    (trans : ∀ a b c, related a b → related b c → related a c) {a b c : List α}
    (hab : List.Forall₂ related a b) (hbc : List.Forall₂ related b c) :
    List.Forall₂ related a c := by
  induction hab generalizing c with
  | nil => exact hbc
  | cons hhead _ ih =>
    cases hbc with
    | cons hhead' hrest' => exact .cons (trans _ _ _ hhead hhead') (ih hrest')

/-- How values are alike that differ in the order of members, part by part. -/
inductive Rearranged.Form : Json → Json → Prop
  | plain {value : Json} : value.isArray = false → value.isObject = false → Form value value
  | arr {items items' : List Json} : List.Forall₂ Rearranged items items' →
      Form (.arr items) (.arr items')
  | obj {members members' : Members} : RearrangedMembers members members' →
      Form (.obj members) (.obj members')

theorem RearrangedMembers.trans {a b c : Members} (hab : RearrangedMembers a b)
    (hbc : RearrangedMembers b c) : RearrangedMembers a c := by
  obtain ⟨first, hfirst, hperm⟩ := hab
  obtain ⟨second, hsecond, hperm'⟩ := hbc
  obtain ⟨middle, hmiddle, hperm''⟩ := List.perm_comp_forall₂ hperm hsecond
  refine ⟨middle, forall₂_trans ?_ hfirst hmiddle, hperm''.trans hperm'⟩
  exact fun _ _ _ h h' => ⟨h.1.trans h'.1, h.2.trans h'.2⟩

theorem Rearranged.form {value value' : Json} (h : value.Rearranged value') :
    Rearranged.Form value value' := by
  induction h with
  | refl value =>
    cases value with
    | arr items => exact .arr (forall₂_rearranged_refl items)
    | obj members => exact .obj ⟨members, forall₂_rearrangedMember_refl members, .refl members⟩
    | _ => exact .plain rfl rfl
  | trans _ _ ih ih' =>
    cases ih with
    | plain => exact ih'
    | arr hitems =>
      cases ih' with
      | plain harr => cases harr
      | arr hitems' => exact .arr (forall₂_trans (fun _ _ _ => .trans) hitems hitems')
    | obj hmembers =>
      cases ih' with
      | plain _ hobj => cases hobj
      | obj hmembers' => exact .obj (hmembers.trans hmembers')
  | members hperm => exact .obj ⟨_, forall₂_rearrangedMember_refl _, hperm⟩
  | item before after hitem =>
    exact .arr (List.rel_append (forall₂_rearranged_refl before)
      (.cons hitem (forall₂_rearranged_refl after)))
  | @member before after name value value' hvalue =>
    refine .obj ⟨before ++ (name, value') :: after, ?_, .refl _⟩
    exact List.rel_append (forall₂_rearrangedMember_refl before)
      (.cons ⟨rfl, hvalue⟩ (forall₂_rearrangedMember_refl after))

theorem RearrangedMembers.keys_perm {members members' : Members}
    (h : RearrangedMembers members members') :
    (Members.keys members).Perm (Members.keys members') := by
  obtain ⟨middle, hmiddle, hperm⟩ := h
  have hkeys : Members.keys members = Members.keys middle := by
    rw [Members.keys, Members.keys, ← List.forall₂_eq_eq_eq, List.forall₂_map_left_iff,
      List.forall₂_map_right_iff]
    exact hmiddle.imp fun _ _ h => h.1
  rw [hkeys]
  exact hperm.map _

theorem RearrangedMembers.has_eq {members members' : Members}
    (h : RearrangedMembers members members') : Members.has members = Members.has members' := by
  have hhas (members : Members) (name : String) :
      Members.has members name = (Members.keys members).any (· == name) := by
    rw [Members.keys, List.any_map]
    rfl
  funext name
  rw [hhas, hhas, h.keys_perm.any_eq]

theorem RearrangedMembers.kept {members members' : Members} (h : RearrangedMembers members members')
    (options : Options) :
    RearrangedMembers (Check.kept options members) (Check.kept options members') := by
  obtain ⟨middle, hmiddle, hperm⟩ := h
  refine ⟨Check.kept options middle, List.rel_filter ?_ hmiddle, hperm.filter _⟩
  rintro ⟨name, _⟩ ⟨name', _⟩ ⟨hname, _⟩
  cases hname
  exact Iff.rfl

/-- Arranging the members of objects makes no difference to the canonical form. By induction
on how the values come from one another. -/
theorem Rearranged.canonical_eq {value value' : Json} (h : value.Rearranged value')
    (proper : value.isProper) : value'.isProper ∧ value.canonical = value'.canonical := by
  induction h with
  | refl => exact ⟨proper, rfl⟩
  | trans _ _ ih ih' =>
    obtain ⟨proper', hsame⟩ := ih proper
    obtain ⟨proper'', hsame'⟩ := ih' proper'
    exact ⟨proper'', hsame.trans hsame'⟩
  | members hperm =>
    obtain ⟨distinct, each⟩ := (isProper_obj_iff _).mp proper
    refine ⟨(isProper_obj_iff _).mpr ⟨(hperm.map _).nodup_iff.mp distinct,
      fun member hmem => each member (hperm.mem_iff.mpr hmem)⟩, ?_⟩
    rw [canonical, canonical, canonicalMembers_eq_map, canonicalMembers_eq_map]
    refine congrArg Json.obj (sortMembers_congr ?_ (hperm.map _))
    rwa [← canonicalMembers_eq_map, keys_canonicalMembers]
  | item before after _ ih =>
    obtain ⟨hitem, hsame⟩ := ih ((areProperItems_iff _).mp proper _ (by simp))
    constructor
    · simp only [isProper, areProperItems_iff, List.forall_mem_append, List.forall_mem_cons]
        at proper ⊢
      exact ⟨proper.1, hitem, proper.2.2⟩
    · simp only [canonical, canonicalItems_eq_map, List.map_append, List.map_cons, hsame]
  | member before after name _ ih =>
    obtain ⟨distinct, each⟩ := (isProper_obj_iff _).mp proper
    obtain ⟨hmember, hsame⟩ := ih (each (name, _) (by simp))
    constructor
    · simp only [List.forall_mem_append, List.forall_mem_cons] at each
      refine (isProper_obj_iff _).mpr ⟨?_, ?_⟩
      · simpa [Members.keys] using distinct
      · simpa only [List.forall_mem_append, List.forall_mem_cons] using
          ⟨each.1, hmember, each.2.2⟩
    · simp only [canonical, canonicalMembers_eq_map, List.map_append, List.map_cons, hsame]

theorem Rearranged.canonicalText_eq {value value' : Json} (h : value.Rearranged value')
    (proper : value.isProper) : value.canonicalText = value'.canonicalText :=
  congrArg Json.text (h.canonical_eq proper).2

end Json

/-- Answers that are lists of the same violations, in whatever order, or both faults. -/
inductive Answer.Permuted : Answer → Answer → Prop
  | found {here here' : List Violation} : here.Perm here' → Permuted (.ok here) (.ok here')
  | failed (f f' : Fault) : Permuted (.error f) (.error f')

namespace Answer.Permuted

theorem refl (answer : Answer) : answer.Permuted answer := by
  cases answer with
  | ok found => exact .found (.refl found)
  | error f => exact .failed f f

theorem trans {a b c : Answer} (hab : a.Permuted b) (hbc : b.Permuted c) : a.Permuted c := by
  cases hab with
  | found h =>
    cases hbc with
    | found h' => exact .found (h.trans h')
  | failed f f' =>
    cases hbc with
    | failed _ f'' => exact .failed f f''

theorem append {a a' b b' : Answer} (hfirst : a.Permuted a') (hsecond : b.Permuted b') :
    Permuted (do let here ← a; return here ++ (← b)) (do let here ← a'; return here ++ (← b')) := by
  cases hfirst with
  | failed f f' => exact .failed f f'
  | found hhere =>
    cases hsecond with
    | failed f f' => exact .failed f f'
    | found hthere => exact .found (hhere.append hthere)

/-- Whether anything is found does not depend on the order. -/
theorem decide {a a' : Answer} {next next' : Bool → Answer} (hfirst : a.Permuted a')
    (hnext : ∀ passes, (next passes).Permuted (next' passes)) :
    Permuted (do next (← a).isEmpty) (do next' (← a').isEmpty) := by
  cases hfirst with
  | failed f f' => exact .failed f f'
  | @found here here' hperm =>
    have hsame : here'.isEmpty = here.isEmpty := by
      rw [Bool.eq_iff_iff, List.isEmpty_iff, List.isEmpty_iff]
      exact ⟨fun h => (h ▸ hperm).eq_nil, fun h => (h ▸ hperm.symm).eq_nil⟩
    change (next here.isEmpty).Permuted (next' here'.isEmpty)
    rw [hsame]
    exact hnext here.isEmpty

end Answer.Permuted

/-- Two plans come to the same up to the order of what they find, above given answers. -/
def Plan.Permutes (answers : Answers) (scope : Scope) (plan plan' : Plan) : Prop :=
  (plan.answer .chain answers scope).Permuted (plan'.answer .chain answers scope)

namespace Plan

variable {answers : Answers} {scope : Scope} {plan plan' : Plan} {plans plans' : List Plan}

theorem Permutes.refl (plan : Plan) : Permutes answers scope plan plan :=
  Answer.Permuted.refl _

/-- What is reported does not depend on the value, only on where it stands. -/
theorem report_permutes (schema schema' : Node) (value value' : Json) (path : Path)
    (finding : Finding) :
    Permutes answers scope (.report schema value path finding)
      (.report schema' value' path finding) :=
  Answer.Permuted.refl (.ok [finding.violation path])

theorem both_permutes {first first' second second' : Plan}
    (hfirst : Permutes answers scope first first')
    (hsecond : Permutes answers scope second second') :
    Permutes answers scope (.both first second) (.both first' second') :=
  Answer.Permuted.append hfirst hsecond

theorem probe_permutes {branch branch' : Plan} {next next' : Bool → Plan}
    (hbranch : Permutes answers scope branch branch')
    (hnext : ∀ passes, Permutes answers scope (next passes) (next' passes)) :
    Permutes answers scope (.probe branch next) (.probe branch' next') :=
  Answer.Permuted.decide hbranch hnext

theorem all_permutes (each : List.Forall₂ (Permutes answers scope) plans plans') :
    Permutes answers scope (.all plans) (.all plans') := by
  induction each with
  | nil => exact .refl _
  | cons hplan _ ih => exact both_permutes hplan ih

/-- Two plans in a row find the same the other way round. -/
theorem both_comm (first second rest : Plan) :
    Permutes answers scope (.both first (.both second rest)) (.both second (.both first rest)) := by
  unfold Permutes
  cases hfirst : first.answer .chain answers scope with
  | error f =>
    rw [answer_both_of_error hfirst]
    cases hsecond : second.answer .chain answers scope with
    | error g =>
      rw [answer_both_of_error hsecond]
      exact .failed f g
    | ok there =>
      rw [answer_both_of_ok hsecond, answer_both_of_error hfirst]
      exact .failed f f
  | ok here =>
    rw [answer_both_of_ok hfirst]
    cases hsecond : second.answer .chain answers scope with
    | error g =>
      rw [answer_both_of_error hsecond, answer_both_of_error hsecond]
      exact .failed g g
    | ok there =>
      rw [answer_both_of_ok hsecond, answer_both_of_ok hsecond, answer_both_of_ok hfirst]
      cases rest.answer .chain answers scope with
      | error g => exact .failed g g
      | ok last => exact .found (List.perm_append_comm_assoc here there last)

/-- Plans of one list that are gone through in another order. -/
theorem all_permutes_of_perm (hperm : plans.Perm plans') :
    Permutes answers scope (.all plans) (.all plans') := by
  induction hperm with
  | nil => exact .refl _
  | cons plan _ ih => exact both_permutes (.refl plan) ih
  | swap first second rest => exact both_comm second first (.all rest)
  | trans _ _ ih ih' => exact ih.trans ih'

theorem mapped_permutes {α β : Type} {l : List α} {l' : List β} {paired : α → β → Prop}
    {plan : α → Plan} {plan' : β → Plan} (h : List.Forall₂ paired l l')
    (each : ∀ a b, paired a b → Permutes answers scope (plan a) (plan' b)) :
    List.Forall₂ (Permutes answers scope) (l.map plan) (l'.map plan') := by
  rw [List.forall₂_map_left_iff, List.forall₂_map_right_iff]
  exact h.imp each

theorem mapped_permutes_self {α : Type} (l : List α) {plan plan' : α → Plan}
    (each : ∀ a, Permutes answers scope (plan a) (plan' a)) :
    List.Forall₂ (Permutes answers scope) (l.map plan) (l.map plan') := by
  rw [List.forall₂_map_left_iff, List.forall₂_map_right_iff, List.forall₂_same]
  exact fun a _ => each a

theorem settle_permutes (schema : Node) (value value' : Json) (path : Path)
    (verdicts : List Verdict) :
    Permutes answers scope (.settle schema value path verdicts)
      (.settle schema value' path verdicts) := by
  refine all_permutes (mapped_permutes_self verdicts fun verdict => ?_)
  rcases verdict with f | _ | finding <;> exact .refl _

theorem firstClean_permutes {otherwise otherwise' : Plan}
    (last : Permutes answers scope otherwise otherwise')
    (each : List.Forall₂ (Permutes answers scope) plans plans') :
    Permutes answers scope (.firstClean otherwise plans) (.firstClean otherwise' plans') := by
  induction each with
  | nil => exact last
  | cons hplan _ ih =>
    refine probe_permutes hplan fun passes => ?_
    cases passes with
    | true => exact .refl _
    | false => exact ih

theorem countClean_permutes {next next' : Nat → Plan}
    (last : ∀ count, Permutes answers scope (next count) (next' count)) (count : Nat)
    (each : List.Forall₂ (Permutes answers scope) plans plans') :
    Permutes answers scope (.countClean next count plans) (.countClean next' count plans') := by
  induction each generalizing count with
  | nil => exact last count
  | cons hplan _ ih => exact probe_permutes hplan fun passes => ih _

end Plan

/-- In the nodes below, the order of members makes no difference but to the order of what is
found. -/
def Answers.Permute (answers : Answers) : Prop :=
  ∀ scope schema value value' path, value.Rearranged value' → value.isProper →
    (answers scope schema value path).Permuted (answers scope schema value' path)

namespace Check

variable {answers : Answers} (below : Answers.Permute answers) {scope : Scope} {options : Options}
  {root schema : Node} {value value' : Json} {path : Path}

/-- Items of two arrays, each with its place. -/
theorem indexed_permutes {elements elements' : List Json}
    (h : List.Forall₂ Json.Rearranged elements elements') (proper : (Json.arr elements).isProper)
    (plan : Nat → Json → Plan)
    (each : ∀ i item item', item.Rearranged item' → item.isProper →
      Plan.Permutes answers scope (plan i item) (plan i item')) :
    Plan.Permutes answers scope
      (.all ((indexed elements).map fun (i, item) => plan i item))
      (.all ((indexed elements').map fun (i, item) => plan i item)) := by
  obtain ⟨hlength, hitems⟩ := List.forall₂_iff_get.mp h
  refine Plan.all_permutes (List.forall₂_iff_get.mpr ⟨by simp [indexed, hlength], ?_⟩)
  intro i hi hi'
  have hitem : i < elements.length := by simpa [indexed] using hi
  have hitem' : i < elements'.length := by simpa [indexed] using hi'
  have hproper := (Json.areProperItems_iff _).mp proper _ (List.getElem_mem hitem)
  simpa [indexed] using each i _ _ (hitems i hitem hitem') hproper

include below

theorem each_permutes (h : value.Rearranged value') (proper : value.isProper)
    (nodes : List Node) :
    List.Forall₂ (Plan.Permutes answers scope) (each nodes value path) (each nodes value' path) :=
  Plan.mapped_permutes_self nodes fun node => below scope node value value' path h proper

theorem additionalItem_permutes (h : value.Rearranged value') (proper : value.isProper)
    (additional : Node) (i : Nat) :
    Plan.Permutes answers scope (additionalItem schema additional i value path)
      (additionalItem schema additional i value' path) := by
  unfold additionalItem
  split
  · exact .refl _
  · exact .refl _
  · exact Plan.report_permutes ..
  · exact Plan.firstClean_permutes (Plan.report_permutes ..) (each_permutes below h proper _)
  · exact below scope additional value value' path h proper

theorem items_permutes {elements elements' : List Json}
    (h : List.Forall₂ Json.Rearranged elements elements') (proper : (Json.arr elements).isProper) :
    Plan.Permutes answers scope (items options schema elements path)
      (items options schema elements' path) := by
  have htuple (additional : Node) (tuple : List Node) :
      Plan.Permutes answers scope (tupleItems schema additional tuple elements path)
        (tupleItems schema additional tuple elements' path) := by
    refine indexed_permutes h proper (tupleItem schema additional tuple path) ?_
    intro i item item' hitem hproper
    unfold tupleItem
    split
    · exact below _ _ _ _ _ hitem hproper
    · exact additionalItem_permutes below hitem hproper _ _
  unfold items
  dsimp only
  split
  · split
    · exact htuple _ _
    · exact .refl _
  · split
    · exact htuple _ _
    · refine indexed_permutes h proper (fun i item => .enter _ item (path.index i)) ?_
      exact fun i item item' hitem hproper => below _ _ _ _ _ hitem hproper

theorem array_permutes {elements elements' : List Json}
    (h : List.Forall₂ Json.Rearranged elements elements') (proper : (Json.arr elements).isProper) :
    Plan.Permutes answers scope (array options schema (.arr elements) elements path)
      (array options schema (.arr elements') elements' path) := by
  have htexts : elements.map Json.canonicalText = elements'.map Json.canonicalText := by
    rw [← List.forall₂_eq_eq_eq, List.forall₂_map_left_iff, List.forall₂_map_right_iff]
    refine ((List.forall₂_and_left _ _).mpr ⟨(Json.areProperItems_iff _).mp proper, h⟩).imp ?_
    exact fun _ _ hitem => hitem.2.canonicalText_eq hitem.1
  unfold array uniqueItems
  rw [h.length_eq, htexts]
  exact Plan.both_permutes (Plan.settle_permutes ..) (items_permutes below h proper)

section

variable {members members' : Members}

theorem dependencies_permutes (h : (Json.obj members).Rearranged (.obj members'))
    (proper : (Json.obj members).isProper) (has : Members.has members = Members.has members') :
    Plan.Permutes answers scope (dependencies options schema members path)
      (dependencies options schema members' path) := by
  have hdependency (owner : String) (target : Node) :
      Plan.Permutes answers scope (dependency schema members path owner target)
        (dependency schema members' path owner target) := by
    unfold dependency
    rw [has]
    split
    · split
      · exact .refl _
      · exact Plan.report_permutes ..
    · exact below _ _ _ _ _ h proper
    · exact Plan.report_permutes ..
  unfold dependencies
  rw [has]
  refine Plan.all_permutes (Plan.mapped_permutes_self _ fun (owner, declared) => ?_)
  dsimp only
  split
  · exact .refl _
  · exact Plan.all_permutes (Plan.mapped_permutes_self _ (hdependency owner))

theorem additionalProperty_permutes (h : value.Rearranged value') (proper : value.isProper)
    (additional : Node) (name : String) :
    Plan.Permutes answers scope (additionalProperty schema additional members name value path)
      (additionalProperty schema additional members' name value' path) := by
  unfold additionalProperty
  split
  · exact .refl _
  · exact .refl _
  · exact Plan.report_permutes ..
  · split
    · split
      · exact below _ _ _ _ _ h proper
      · exact Plan.report_permutes ..
    · exact below _ _ _ _ _ h proper

theorem property_permutes (h : value.Rearranged value') (proper : value.isProper)
    (patterns : Option (List (Pattern × Node))) (name : String) :
    Plan.Permutes answers scope (property options schema members patterns path name value)
      (property options schema members' patterns path name value') := by
  unfold property
  split
  · exact below _ _ _ _ _ h proper
  · split
    · exact .refl _
    · exact below _ _ _ _ _ h proper
    · exact additionalProperty_permutes below h proper _ _
    · split
      · exact Plan.report_permutes ..
      · exact additionalProperty_permutes below h proper _ _

/-- The members are gone through in the order in which they come. -/
theorem properties_permute (h : Json.RearrangedMembers members members')
    (proper : (Json.obj members).isProper) (patterns : Option (List (Pattern × Node))) :
    Plan.Permutes answers scope
      (.all ((kept options members).map fun (name, value) =>
        property options schema members patterns path name value))
      (.all ((kept options members').map fun (name, value) =>
        property options schema members' patterns path name value)) := by
  obtain ⟨middle, hmiddle, hperm⟩ := h.kept options
  have hproper : ∀ member ∈ kept options members, member.2.isProper := fun member hmem =>
    ((Json.isProper_obj_iff _).mp proper).2 member (List.mem_of_mem_filter hmem)
  refine Answer.Permuted.trans (Plan.all_permutes ?_) (Plan.all_permutes_of_perm (hperm.map _))
  refine Plan.mapped_permutes ((List.forall₂_and_left _ _).mpr ⟨hproper, hmiddle⟩) ?_
  rintro ⟨name, value⟩ ⟨name', value'⟩ ⟨hvalue, hname, hrearranged⟩
  cases hname
  exact property_permutes below hrearranged hvalue patterns name

theorem object_permutes (h : (Json.obj members).Rearranged (.obj members'))
    (hmembers : Json.RearrangedMembers members members') (proper : (Json.obj members).isProper) :
    Plan.Permutes answers scope (object options schema members path)
      (object options schema members' path) := by
  have hlength : (kept options members).length = (kept options members').length := by
    simpa [Members.keys] using (hmembers.kept options).keys_perm.length_eq
  unfold object required
  rw [hlength, hmembers.has_eq]
  refine Plan.all_permutes (.cons (Plan.settle_permutes ..) (.cons ?_ (.cons ?_ (.cons ?_ .nil))))
  · exact dependencies_permutes below h proper hmembers.has_eq
  · refine Plan.all_permutes (Plan.mapped_permutes_self _ fun entry => ?_)
    obtain ⟨text, node⟩ := entry
    dsimp only
    unfold patternName
    split
    · exact .refl _
    · exact Plan.report_permutes ..
    · exact .refl _
  · exact properties_permute below hmembers proper _

end

theorem ofType_permutes (h : value.Rearranged value') (proper : value.isProper)
    (type : SchemaType) :
    Plan.Permutes answers scope (ofType options schema value path type)
      (ofType options schema value' path type) := by
  cases h.form with
  | plain => exact .refl _
  | arr hitems =>
    cases type
    case array => exact array_permutes below hitems proper
    case any => exact .refl _
    all_goals exact Plan.report_permutes ..
  | obj hmembers =>
    cases type
    case object => exact object_permutes below h hmembers proper
    case any => exact .refl _
    all_goals exact Plan.report_permutes ..

theorem type_permutes (h : value.Rearranged value') (proper : value.isProper) (named : Json) :
    Plan.Permutes answers scope (Check.type options schema value path named)
      (Check.type options schema value' path named) := by
  unfold Check.type
  split
  · exact ofType_permutes below h proper _
  · exact Plan.report_permutes ..

theorem union_permutes (h : value.Rearranged value') (proper : value.isProper) (members : Node) :
    Plan.Permutes answers scope (union options schema members value path)
      (union options schema members value' path) := by
  refine Plan.firstClean_permutes (Plan.report_permutes ..)
    (Plan.mapped_permutes_self _ fun member => ?_)
  unfold unionMember
  split
  · exact below _ _ _ _ _ h proper
  · exact type_permutes below h proper _

omit below in
theorem enumeration_permutes (h : value.Rearranged value') (proper : value.isProper)
    (members : Node) :
    Plan.Permutes answers scope (enumeration schema members value path)
      (enumeration schema members value' path) := by
  have htext := h.canonicalText_eq proper
  unfold enumeration Json.same Json.brief
  rw [htext]
  split
  · split
    · exact .refl _
    · exact Plan.report_permutes ..
  · exact Plan.report_permutes ..

theorem reference_permutes (h : value.Rearranged value') (proper : value.isProper) (ref : Json) :
    Plan.Permutes answers scope (reference options root schema ref value path)
      (reference options root schema ref value' path) := by
  unfold reference
  split
  · exact .refl _
  · split
    · exact .refl _
    · exact Plan.report_permutes ..
    · rename_i target _
      unfold Plan.Permutes Plan.answer
      cases Guard.chain.follow scope ⟨ref.display, target, path⟩ with
      | error f => exact .refl _
      | ok next => exact below next target value value' path h proper

theorem governing_permutes (h : value.Rearranged value') (proper : value.isProper) :
    Plan.Permutes answers scope (governing options root schema value path)
      (governing options root schema value' path) := by
  have heach (nodes : List Node) : List.Forall₂ (Plan.Permutes answers scope)
      (each nodes value path) (each nodes value' path) := each_permutes below h proper nodes
  unfold governing
  cases schema.member? "enum" with
  | some members => exact enumeration_permutes h proper members
  | none =>
  cases schema.member? "oneOf" with
  | some members =>
    dsimp only [oneOf]
    split
    · refine Plan.countClean_permutes (fun count => ?_) 0 (heach _)
      cases oneOfVerdict count <;> exact .refl _
    · exact Plan.report_permutes ..
  | none =>
  cases schema.member? "allOf" with
  | some members =>
    dsimp only [allOf]
    split
    · exact Plan.all_permutes (heach _)
    · exact Plan.report_permutes ..
  | none =>
  cases schema.member? "anyOf" with
  | some members =>
    dsimp only [anyOf]
    split
    · exact Plan.firstClean_permutes (Plan.report_permutes ..) (heach _)
    · exact Plan.report_permutes ..
  | none =>
  cases schema.member? "$ref" with
  | some ref => exact reference_permutes below h proper ref.json
  | none =>
  cases governingType? schema with
  | none => exact .refl _
  | some type =>
    dsimp only
    split
    · exact union_permutes below h proper type
    · exact type_permutes below h proper type.json

theorem node_permutes (h : value.Rearranged value') (proper : value.isProper) :
    Plan.Permutes answers scope (node options root schema value path)
      (node options root schema value' path) := by
  unfold node
  split
  · exact .refl _
  · exact .refl _
  · exact governing_permutes below h proper
  · exact Plan.report_permutes ..

omit below in
/-- By induction on the budget. -/
theorem answer_permutes (budget : Nat) : Answers.Permute (answer .chain budget) := by
  induction budget with
  | zero => exact fun _ _ _ _ _ _ _ => .refl _
  | succ budget ih =>
    intro scope schema value value' path h proper
    unfold answer
    rcases Options.exceeds path.length scope.options.maxDepth with _ | _ | _
    · exact .refl _
    · exact node_permutes ih h proper
    · exact .refl _

end Check

theorem answerWith_permutes (steps : Options → Nat) (schema : Json) {value value' : Json}
    (given : Given) (h : value.Rearranged value') (proper : value.isProper) :
    (answerWith .chain steps schema value given).Permuted
      (answerWith .chain steps schema value' given) := by
  unfold answerWith
  rcases opening? schema given with f | _ | opened
  · exact .refl _
  · exact .refl _
  · exact Check.answer_permutes (steps opened) _ _ _ _ _ h proper

/-- The order of the members of a value is immaterial as long as nobody listens: whether a
validation returns does not depend on it, nor do the violations that it finds, each as often as
it is found; only the order in which they are found may be another. -/
theorem validate_rearranged (schema : Json) {value value' : Json} {given : Given}
    (h : value.Rearranged value') (proper : value.isProper) (unheard : given.Unheard)
    (heard heard' : List Notice) :
    ((∃ violations, ((validate schema value given).on heard).1 = .ok violations) ↔
      ∃ violations', ((validate schema value' given).on heard').1 = .ok violations') ∧
    ∀ violations violations', ((validate schema value given).on heard).1 = .ok violations →
      ((validate schema value' given).on heard').1 = .ok violations' →
      violations.Perm violations' := by
  let steps (options : Options) := enough schema value options + enough schema value' options
  have hvalidate (value : Json) (heard : List Notice)
      (le : ∀ options, enough schema value options ≤ steps options) :
      ((validate schema value given).on heard).1 = answerWith .chain steps schema value given := by
    rw [← validate_eq_of_le le heard]
    exact validateWith_unheard Guard.chain_ignoresHook steps schema value unheard heard
  rw [hvalidate value heard fun _ => Nat.le_add_right _ _,
    hvalidate value' heard' fun _ => Nat.le_add_left _ _]
  have hpermuted := answerWith_permutes steps schema given h proper
  generalize answerWith .chain steps schema value given = answer at hpermuted
  generalize answerWith .chain steps schema value' given = answer' at hpermuted
  cases hpermuted with
  | found hperm => simpa using hperm
  | failed f f' => simp

theorem validate_rearranged_nested :
    let schema := Json.obj [("additionalProperties", .bool false),
      ("properties", .obj [("a", .obj [("properties", .obj [("x", .obj [("type", .str "string")]),
        ("y", .obj [("type", .str "text")])])])])]
    let value := Json.obj [("a", .obj [("x", .int 1), ("y", .null)]), ("b", .int 2)]
    let value' := Json.obj [("b", .int 2), ("a", .obj [("y", .null), ("x", .int 1)])]
    value.Rearranged value' ∧ value.isProper ∧ ∃ violations violations',
      ((validate schema value .absent).on []).1 = .ok violations ∧
      ((validate schema value' .absent).on []).1 = .ok violations' ∧
      violations.map (·.kind) = [.type, .unknownType, .additionalProperties] ∧
      violations'.map (·.kind) = [.additionalProperties, .unknownType, .type] ∧
      violations.Perm violations' := by
  intro schema value value'
  have inside : (Json.obj [("x", .int 1), ("y", .null)]).Rearranged
      (.obj [("y", .null), ("x", .int 1)]) := .members (.swap ..)
  have h : value.Rearranged value' :=
    .trans (.member [] [("b", .int 2)] "a" inside) (.members (.swap ..))
  have proper : value.isProper := by decide
  have unheard : Given.Unheard .absent := by
    intro options hoptions
    cases hoptions
    rfl
  have hkinds : Check.kindsOf ((validate schema value .absent).on []).1 =
      [.type, .unknownType, .additionalProperties] := by decide +kernel
  have hkinds' : Check.kindsOf ((validate schema value' .absent).on []).1 =
      [.additionalProperties, .unknownType, .type] := by decide +kernel
  obtain ⟨violations, returns, hfound⟩ := Check.kindsOf_eq_cons.mp hkinds
  obtain ⟨violations', returns', hfound'⟩ := Check.kindsOf_eq_cons.mp hkinds'
  refine ⟨h, proper, violations, violations', returns, returns', hfound, hfound', ?_⟩
  exact (validate_rearranged schema h proper unheard [] []).2 _ _ returns returns'

end JsonSchema
