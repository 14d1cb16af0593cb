import Mathlib.Data.List.Forall2
import JsonSchema.Proofs.Termination
import JsonSchema.Proofs.Visits

/-! Runs with stricter options, in step with a run. Where additional properties or items
are forbidden instead of free, violations are added between those that there are and none is
lost, unless fewer of several schemas match of which one should. -/
namespace JsonSchema

/-- What is said about additional parts: the same, or that they are forbidden where they
were free. -/
def Node.Toggles (loose strict : Node) : Prop :=
  strict = loose ∨ loose.json = .bool true ∧ strict.json = .bool false

namespace Options

/-- Options with what others say about additional parts. -/
def under (options strict : Options) : Options :=
  { options with
    additionalProperties := strict.additionalProperties
    additionalItems := strict.additionalItems }

structure Toggles (loose strict : Options) : Prop where
  properties : loose.additionalProperties.Toggles strict.additionalProperties
  items : loose.additionalItems.Toggles strict.additionalItems

/-- Options that agree but for additional parts that are free by the one and forbidden by
the other. -/
structure Tightens (loose strict : Options) : Prop where
  toggles : loose.Toggles strict
  same : strict = loose.under strict

end Options

namespace Scope

def under (scope : Scope) (strict : Options) : Scope :=
  { scope with options := scope.options.under strict }

theorem follow_under (scope : Scope) (strict : Options) (link : Link) :
    (scope.under strict).follow link = (scope.follow link).map (·.under strict) := by
  change (if scope.chain.any (·.isSame link) then _ else _) = _
  unfold follow
  split <;> rfl

end Scope

/-- What one list of violations tells another tells as well: all of it and in the same order
or, if a branch is only tried out, that there is something. -/
def Covers (tried : Bool) (violations violations' : List Violation) : Prop :=
  if tried then violations' = [] → violations = [] else violations.Sublist violations'

theorem covers_nil (tried : Bool) (violations' : List Violation) :
    Covers tried [] violations' := by
  cases tried with
  | true => exact fun _ => rfl
  | false => exact List.nil_sublist _

theorem covers_refl (tried : Bool) (violations : List Violation) :
    Covers tried violations violations := by
  cases tried with
  | true => exact id
  | false => exact .refl _

theorem Covers.append {tried : Bool} {here here' there there' : List Violation}
    (hhere : Covers tried here here') (hthere : Covers tried there there') :
    Covers tried (here ++ there) (here' ++ there') := by
  cases tried with
  | false => exact List.Sublist.append hhere hthere
  | true =>
    intro h
    obtain ⟨rfl, rfl⟩ := List.append_eq_nil_iff.mp h
    rw [show here = [] from hhere rfl, show there = [] from hthere rfl]
    rfl

namespace Check

/-- Where more than one of several schemas match, just as many do with stricter options or,
where only whether something is found matters, not one alone. -/
def Steady (strict : Options) (answers : Answers) (tried : Bool) (scope : Scope) (schema : Node)
    (value : Json) (path : Path) : Prop :=
  1 < matching answers scope schema value path →
    if tried then matching answers (scope.under strict) schema value path ≠ 1
    else
      matching answers (scope.under strict) schema value path =
        matching answers scope schema value path

instance (strict : Options) (answers : Answers) (tried : Bool) (scope : Scope) (schema : Node)
    (value : Json) (path : Path) :
    Decidable (Steady strict answers tried scope schema value path) :=
  inferInstanceAs (Decidable (1 < matching answers scope schema value path →
    if tried then matching answers (scope.under strict) schema value path ≠ 1
    else
      matching answers (scope.under strict) schema value path =
        matching answers scope schema value path))

end Check

def Visit.Steady (strict : Options) (visit : Visit) : Prop :=
  Check.Steady strict (Check.answer .chain visit.budget) visit.tried visit.scope visit.schema
    visit.value visit.path

instance (strict : Options) (visit : Visit) : Decidable (visit.Steady strict) :=
  inferInstanceAs (Decidable (Check.Steady _ _ _ _ _ _ _))

/-- Two runs side by side, the second with stricter options, above nodes where the second
loses nothing that the first finds. -/
structure Tightening where
  strict : Options
  answers : Answers
  visits : Visits
  below (tried : Bool) (scope : Scope) (schema : Node) (value : Json) (path : Path)
    (violations violations' : List Violation) : scope.options.Toggles strict →
      (∀ visit ∈ visits tried scope schema value path, visit.Steady strict) →
      answers scope schema value path = .ok violations →
      answers (scope.under strict) schema value path = .ok violations' →
      Covers tried violations violations'

/-- What a plan finds is found by another as well with the stricter options. -/
def Plan.Tightens (runs : Tightening) (tried : Bool) (scope : Scope) (plan plan' : Plan) : Prop :=
  ∀ violations violations',
    (∀ visit ∈ plan.visits runs.answers runs.visits tried scope, visit.Steady runs.strict) →
    plan.answer .chain runs.answers scope = .ok violations →
    plan'.answer .chain runs.answers (scope.under runs.strict) = .ok violations' →
    Covers tried violations violations'

namespace Plan

variable {runs : Tightening} {tried : Bool} {scope : Scope} {plans plans' : List Plan}

theorem clean_tightens (plan' : Plan) : Tightens runs tried scope .clean plan' := by
  intro violations violations' _ h _
  cases h
  exact covers_nil tried _

theorem fault_tightens (f : Fault) (plan' : Plan) : Tightens runs tried scope (.fault f) plan' := by
  intro violations violations' _ h _
  cases h

theorem report_tightens (schema : Node) (value : Json) (path : Path) (finding : Finding) :
    Tightens runs tried scope (.report schema value path finding)
      (.report schema value path finding) := by
  intro violations violations' _ h h'
  cases h
  cases h'
  exact covers_refl tried _

theorem both_tightens {first first' second second' : Plan}
    (hfirst : Tightens runs tried scope first first')
    (hsecond : Tightens runs tried scope second second') :
    Tightens runs tried scope (.both first second) (.both first' second') := by
  intro violations violations' steady h h'
  obtain ⟨here, there, hhere, hthere, rfl⟩ := answer_both_ok h
  obtain ⟨here', there', hhere', hthere', rfl⟩ := answer_both_ok h'
  obtain ⟨steadyFirst, steadySecond⟩ := List.forall_mem_append.mp steady
  exact (hfirst here here' steadyFirst hhere hhere').append
    (hsecond there there' steadySecond hthere hthere')

theorem all_tightens (each : List.Forall₂ (Tightens runs tried scope) plans plans') :
    Tightens runs tried scope (.all plans) (.all plans') := by
  induction each with
  | nil => exact clean_tightens _
  | cons hplan _ ih => exact both_tightens hplan ih

/-- Two plans for each entry of one list go together if those of each entry do. -/
theorem mapped_tightens {α : Type} {l : List α} {plan plan' : α → Plan}
    (each : ∀ a ∈ l, Tightens runs tried scope (plan a) (plan' a)) :
    List.Forall₂ (Tightens runs tried scope) (l.map plan) (l.map plan') := by
  rw [List.forall₂_map_left_iff, List.forall₂_map_right_iff, List.forall₂_same]
  exact each

theorem settle_tightens (schema : Node) (value : Json) (path : Path) (verdicts : List Verdict) :
    Tightens runs tried scope (.settle schema value path verdicts)
      (.settle schema value path verdicts) := by
  apply all_tightens
  apply mapped_tightens
  intro verdict _
  rcases verdict with f | _ | finding
  · exact fault_tightens f _
  · exact clean_tightens _
  · exact report_tightens schema value path finding

theorem enter_tightens (toggles : scope.options.Toggles runs.strict) (schema : Node)
    (value : Json) (path : Path) :
    Tightens runs tried scope (.enter schema value path) (.enter schema value path) :=
  fun violations violations' =>
    runs.below tried scope schema value path violations violations' toggles

theorem follow_tightens (toggles : scope.options.Toggles runs.strict) (link : Link)
    (value : Json) : Tightens runs tried scope (.follow link value) (.follow link value) := by
  intro violations violations' steady h h'
  cases hfollow : scope.follow link with
  | error f =>
    rw [answer_follow_of_error hfollow] at h
    cases h
  | ok inner =>
    have hfollow' : Guard.chain.follow (scope.under runs.strict) link =
        .ok (inner.under runs.strict) :=
      (scope.follow_under runs.strict link).trans (congrArg (Except.map _) hfollow)
    rw [answer_follow_of_ok hfollow] at h
    rw [answer_follow_of_ok hfollow'] at h'
    rw [Plan.visits, hfollow] at steady
    have hinner : inner.options = scope.options := by
      rw [(Scope.follow_ok hfollow).2]
    exact runs.below tried inner link.target value link.path violations violations'
      (hinner ▸ toggles) steady h h'

/-- Where some branch is clean nothing is found; without one in the first run there is none
in the second. -/
theorem firstClean_tightens {otherwise : Plan} (last : Tightens runs tried scope otherwise otherwise)
    (each : List.Forall₂ (Tightens runs true scope) plans plans') :
    Tightens runs tried scope (.firstClean otherwise plans) (.firstClean otherwise plans') := by
  induction each with
  | nil => exact last
  | cons hplan _ ih =>
    intro violations violations' steady h h'
    obtain ⟨found, hfound, hnext⟩ := answer_probe_ok h
    obtain ⟨found', hfound', hnext'⟩ := answer_probe_ok h'
    rw [firstClean, visits_probe hfound] at steady
    obtain ⟨steadyBranch, steadyNext⟩ := List.forall_mem_append.mp steady
    have hcovers := hplan found found' steadyBranch hfound hfound'
    cases found with
    | nil =>
      cases hnext
      exact covers_nil tried _
    | cons violation more =>
      cases found' with
      | nil => cases hcovers rfl
      | cons violation' more' => exact ih violations violations' steadyNext hnext hnext'

end Plan

namespace Check

variable {runs : Tightening} {tried : Bool} {scope : Scope} {options : Options}

theorem each_tightens (toggles : scope.options.Toggles runs.strict) (nodes : List Node)
    (value : Json) (path : Path) :
    List.Forall₂ (Plan.Tightens runs tried scope) (each nodes value path)
      (each nodes value path) :=
  Plan.mapped_tightens fun node _ => Plan.enter_tightens toggles node value path

theorem additionalItem_tightens (toggles : scope.options.Toggles runs.strict)
    {additional additional' : Node} (toggled : additional.Toggles additional') (schema : Node)
    (i : Nat) (item : Json) (path : Path) :
    Plan.Tightens runs tried scope (additionalItem schema additional i item path)
      (additionalItem schema additional' i item path) := by
  rcases toggled with rfl | ⟨hfree, _⟩
  · unfold additionalItem
    cases additional'.json with
    | null => exact Plan.clean_tightens _
    | bool b =>
      cases b with
      | true => exact Plan.clean_tightens _
      | false => exact Plan.report_tightens _ _ _ _
    | arr _ =>
      exact Plan.firstClean_tightens (Plan.report_tightens _ _ _ _)
        (each_tightens toggles _ _ _)
    | _ => exact Plan.enter_tightens toggles _ _ _
  · have hclean : additionalItem schema additional i item path = .clean := by
      rw [additionalItem, hfree]
    rw [hclean]
    exact Plan.clean_tightens _

/-- Neither free nor forbidden items are a schema. -/
theorem isSchemaValue_of_toggles {additional additional' : Node}
    (toggled : additional.Toggles additional') :
    isSchemaValue additional'.json = isSchemaValue additional.json := by
  rcases toggled with rfl | ⟨hfree, hforbidden⟩
  · rfl
  · rw [hfree, hforbidden]
    rfl

/-- Items past a tuple, each with its place. -/
theorem tupleItems_tightens (toggles : scope.options.Toggles runs.strict)
    {additional additional' : Node} (toggled : additional.Toggles additional') (schema : Node)
    (tuple : List Node) (elements : List Json) (path : Path) :
    Plan.Tightens runs tried scope (tupleItems schema additional tuple elements path)
      (tupleItems schema additional' tuple elements path) := by
  apply Plan.all_tightens
  apply Plan.mapped_tightens
  intro (i, item) _
  dsimp only
  unfold tupleItem
  cases tuple[i]? with
  | some own => exact Plan.enter_tightens toggles _ _ _
  | none => exact additionalItem_tightens toggles toggled _ _ _ _

theorem items_tightens (toggles : scope.options.Toggles runs.strict) (schema : Node)
    (elements : List Json) (path : Path) :
    Plan.Tightens runs tried scope (items scope.options schema elements path)
      (items (scope.options.under runs.strict) schema elements path) := by
  have toggled : (additionalItems scope.options schema).Toggles
      (additionalItems (scope.options.under runs.strict) schema) := by
    unfold additionalItems
    cases schema.member? "additionalItems" with
    | some own => exact .inl rfl
    | none => exact toggles.items
  unfold items
  cases schema.member? "items" with
  | none =>
    dsimp only
    rw [isSchemaValue_of_toggles toggled]
    split
    · exact tupleItems_tightens toggles toggled schema [] elements path
    · exact Plan.clean_tightens _
  | some node =>
    dsimp only
    split
    · exact tupleItems_tightens toggles toggled schema node.items elements path
    · apply Plan.all_tightens
      apply Plan.mapped_tightens
      intro (i, item) _
      exact Plan.enter_tightens toggles _ _ _

theorem array_tightens (toggles : scope.options.Toggles runs.strict) (schema : Node)
    (value : Json) (elements : List Json) (path : Path) :
    Plan.Tightens runs tried scope (array scope.options schema value elements path)
      (array (scope.options.under runs.strict) schema value elements path) :=
  Plan.both_tightens (Plan.settle_tightens _ _ _ _) (items_tightens toggles schema elements path)

theorem dependencies_tightens (toggles : scope.options.Toggles runs.strict) (schema : Node)
    (members : Members) (path : Path) :
    Plan.Tightens runs tried scope (dependencies scope.options schema members path)
      (dependencies (scope.options.under runs.strict) schema members path) := by
  apply Plan.all_tightens
  apply Plan.mapped_tightens
  intro (owner, declared) _
  have hsame : (scope.options.under runs.strict).omits owner = scope.options.omits owner := rfl
  dsimp only
  rw [hsame]
  split
  · exact Plan.clean_tightens _
  · apply Plan.all_tightens
    apply Plan.mapped_tightens
    intro target _
    unfold dependency
    cases target.json with
    | str name =>
      dsimp only
      split
      · exact Plan.clean_tightens _
      · exact Plan.report_tightens _ _ _ _
    | obj _ => exact Plan.enter_tightens toggles _ _ _
    | _ => exact Plan.report_tightens _ _ _ _

theorem additionalProperty_tightens (toggles : scope.options.Toggles runs.strict)
    {additional additional' : Node} (toggled : additional.Toggles additional') (schema : Node)
    (members : Members) (name : String) (value : Json) (path : Path) :
    Plan.Tightens runs tried scope (additionalProperty schema additional members name value path)
      (additionalProperty schema additional' members name value path) := by
  rcases toggled with rfl | ⟨hfree, _⟩
  · unfold additionalProperty
    cases additional'.json with
    | null => exact Plan.clean_tightens _
    | bool b =>
      cases b with
      | true => exact Plan.clean_tightens _
      | false => exact Plan.report_tightens _ _ _ _
    | _ =>
      dsimp only
      split
      · cases additional'.member? name with
        | some node => exact Plan.enter_tightens toggles _ _ _
        | none => exact Plan.report_tightens _ _ _ _
      · exact Plan.enter_tightens toggles _ _ _
  · have hclean : additionalProperty schema additional members name value path = .clean := by
      rw [additionalProperty, hfree]
    rw [hclean]
    exact Plan.clean_tightens _

theorem property_tightens (toggles : scope.options.Toggles runs.strict) (schema : Node)
    (members : Members) (patterns : Option (List (Pattern × Node))) (path : Path)
    (name : String) (value : Json) :
    Plan.Tightens runs tried scope (property scope.options schema members patterns path name value)
      (property (scope.options.under runs.strict) schema members patterns path name value) := by
  unfold property
  cases (properties schema).lookup name with
  | some node => exact Plan.enter_tightens toggles _ _ _
  | none =>
    dsimp only
    rcases matching? name (patterns.getD []) with f | _ | node
    · exact Plan.fault_tightens _ _
    · cases schema.member? "additionalProperties" with
      | some additional => exact additionalProperty_tightens toggles (.inl rfl) _ _ _ _ _
      | none =>
        dsimp only
        split
        · exact Plan.report_tightens _ _ _ _
        · exact additionalProperty_tightens toggles toggles.properties _ _ _ _ _
    · exact Plan.enter_tightens toggles _ _ _

theorem patternName_tightens (schema : Node) (value : Json) (path : Path) (text : String) :
    Plan.Tightens runs tried scope (patternName schema value path text)
      (patternName schema value path text) := by
  unfold patternName
  split
  · exact Plan.clean_tightens _
  · exact Plan.report_tightens _ _ _ _
  · exact Plan.fault_tightens _ _

theorem object_tightens (toggles : scope.options.Toggles runs.strict) (schema : Node)
    (members : Members) (path : Path) :
    Plan.Tightens runs tried scope (object scope.options schema members path)
      (object (scope.options.under runs.strict) schema members path) := by
  apply Plan.all_tightens
  refine .cons ?_ (.cons ?_ (.cons ?_ (.cons ?_ .nil)))
  · exact Plan.settle_tightens _ _ _ _
  · exact dependencies_tightens toggles schema members path
  · apply Plan.all_tightens
    apply Plan.mapped_tightens
    intro (text, _) _
    exact patternName_tightens _ _ _ _
  · apply Plan.all_tightens
    apply Plan.mapped_tightens
    intro (name, value) _
    exact property_tightens toggles schema members _ path name value

theorem mismatch_tightens (schema : Node) (value : Json) (path : Path) (expected : SchemaType) :
    Plan.Tightens runs tried scope (mismatch schema value path expected)
      (mismatch schema value path expected) :=
  Plan.report_tightens _ _ _ _

theorem ofType_tightens (toggles : scope.options.Toggles runs.strict) (schema : Node)
    (value : Json) (path : Path) (type : SchemaType) :
    Plan.Tightens runs tried scope (ofType scope.options schema value path type)
      (ofType (scope.options.under runs.strict) schema value path type) := by
  cases type with
  | any => exact Plan.clean_tightens _
  | boolean =>
    cases value with
    | bool _ => exact Plan.clean_tightens _
    | _ => exact mismatch_tightens _ _ _ _
  | null =>
    cases value with
    | null => exact Plan.clean_tightens _
    | _ => exact mismatch_tightens _ _ _ _
  | number =>
    rw [ofType, ofType]
    split
    · exact Plan.settle_tightens _ _ _ _
    · exact mismatch_tightens _ _ _ _
  | integer =>
    rw [ofType, ofType]
    split
    · exact Plan.settle_tightens _ _ _ _
    · exact mismatch_tightens _ _ _ _
  | string =>
    cases value with
    | str s => exact Plan.settle_tightens _ _ _ _
    | _ => exact mismatch_tightens _ _ _ _
  | array =>
    cases value with
    | arr elements => exact array_tightens toggles schema _ elements path
    | _ => exact mismatch_tightens _ _ _ _
  | object =>
    cases value with
    | obj members => exact object_tightens toggles schema members path
    | _ => exact mismatch_tightens _ _ _ _

theorem type_tightens (toggles : scope.options.Toggles runs.strict) (schema : Node)
    (value : Json) (path : Path) (named : Json) :
    Plan.Tightens runs tried scope (Check.type scope.options schema value path named)
      (Check.type (scope.options.under runs.strict) schema value path named) := by
  unfold Check.type
  cases namedType? named with
  | some type => exact ofType_tightens toggles schema value path type
  | none => exact Plan.report_tightens _ _ _ _

theorem union_tightens (toggles : scope.options.Toggles runs.strict) (schema members : Node)
    (value : Json) (path : Path) :
    Plan.Tightens runs tried scope (union scope.options schema members value path)
      (union (scope.options.under runs.strict) schema members value path) := by
  apply Plan.firstClean_tightens (Plan.report_tightens _ _ _ _)
  apply Plan.mapped_tightens
  intro member _
  unfold unionMember
  split
  · exact Plan.enter_tightens toggles _ _ _
  · exact type_tightens toggles schema value path member.json

theorem enumeration_tightens (schema members : Node) (value : Json) (path : Path) :
    Plan.Tightens runs tried scope (enumeration schema members value path)
      (enumeration schema members value path) := by
  unfold enumeration
  split
  · split
    · exact Plan.clean_tightens _
    · exact Plan.report_tightens _ _ _ _
  · exact Plan.report_tightens _ _ _ _

theorem reference_tightens (toggles : scope.options.Toggles runs.strict) (root schema : Node)
    (ref value : Json) (path : Path) :
    Plan.Tightens runs tried scope (reference scope.options root schema ref value path)
      (reference (scope.options.under runs.strict) root schema ref value path) := by
  have hsame : reference (scope.options.under runs.strict) root schema ref value path =
      reference scope.options root schema ref value path := rfl
  rw [hsame]
  unfold reference
  split
  · exact Plan.clean_tightens _
  · split
    · exact Plan.fault_tightens _ _
    · exact Plan.report_tightens _ _ _ _
    · exact Plan.follow_tightens toggles _ value

/-- With stricter options no schema matches that did not before. -/
theorem matching_under_le (toggles : scope.options.Toggles runs.strict) {schema : Node}
    {value : Json} {path : Path}
    (answered : ∀ node ∈ alternatives schema, ∃ found,
      runs.answers scope node value path = .ok found)
    (steady : ∀ node ∈ alternatives schema, ∀ visit ∈ runs.visits true scope node value path,
      visit.Steady runs.strict) :
    matching runs.answers (scope.under runs.strict) schema value path ≤
      matching runs.answers scope schema value path := by
  apply List.countP_mono_left
  intro node hnode hclean
  obtain ⟨found, hfound⟩ := answered node hnode
  have hcovers := runs.below true scope node value path found [] toggles (steady node hnode)
    hfound (isClean_iff.mp hclean)
  rw [show found = [] from hcovers rfl] at hfound
  exact isClean_iff.mpr hfound

/-- The alternatives that are found to match are counted as plans or as nodes. -/
theorem countP_each {answers : Answers} {nodes : List Node} {value : Json} {path : Path} :
    ((each nodes value path).countP fun plan => isClean (plan.answer .chain answers scope)) =
      nodes.countP fun node => isClean (answers scope node value path) := by
  rw [each, List.countP_map]
  rfl

/-- What is reported of counts that differ as little as they may. -/
theorem oneOfVerdict_covers {answers : Answers} {scope scope' : Scope} {schema : Node}
    {value : Json} {path : Path} {count count' : Nat} {violations violations' : List Violation}
    (le : count' ≤ count) (steady : 1 < count → if tried then count' ≠ 1 else count' = count)
    (h : (Plan.ofVerdict schema value path (.ok (oneOfVerdict count))).answer .chain answers
      scope = .ok violations)
    (h' : (Plan.ofVerdict schema value path (.ok (oneOfVerdict count'))).answer .chain answers
      scope' = .ok violations') :
    Covers tried violations violations' := by
  rcases count with _ | _ | more
  · cases Nat.le_zero.mp le
    cases h
    cases h'
    exact covers_refl tried _
  · cases h
    exact covers_nil tried _
  · have hsteady := steady (by omega)
    cases tried with
    | false =>
      cases show count' = more + 2 from hsteady
      cases h
      cases h'
      exact covers_refl false _
    | true =>
      rcases count' with _ | _ | more'
      · cases h'
        exact nofun
      · exact absurd rfl (show 1 ≠ 1 from hsteady)
      · cases h'
        exact nofun

/-- Where none of several schemas match none do with stricter options, and where more than
one do they are as many: so the same is reported. -/
theorem oneOf_tightens (toggles : scope.options.Toggles runs.strict) {schema members : Node}
    {value : Json} {path : Path} (halternatives : alternatives schema = members.items)
    (steady : Steady runs.strict runs.answers tried scope schema value path) :
    Plan.Tightens runs tried scope (oneOf schema members value path)
      (oneOf schema members value path) := by
  unfold oneOf
  split
  · intro violations violations' steadyBelow h h'
    obtain ⟨hanswered, hnext⟩ := Plan.countClean_ok h
    obtain ⟨_, hnext'⟩ := Plan.countClean_ok h'
    have hle : matching runs.answers (scope.under runs.strict) schema value path ≤
        matching runs.answers scope schema value path := by
      apply matching_under_le toggles
      · intro node hnode
        exact hanswered _ (List.mem_map_of_mem (halternatives ▸ hnode))
      · intro node hnode visit hvisit
        exact steadyBelow visit
          (Plan.mem_visits_countClean h (List.mem_map_of_mem (halternatives ▸ hnode)) hvisit)
    rw [countP_each, ← halternatives, Nat.zero_add] at hnext hnext'
    change ((fun count => Plan.ofVerdict schema value path (.ok (oneOfVerdict count)))
      (matching _ _ _ _ _)).answer _ _ _ = _ at hnext hnext'
    unfold Steady at steady
    generalize matching runs.answers scope schema value path = count at *
    generalize matching runs.answers (scope.under runs.strict) schema value path = count' at *
    exact oneOfVerdict_covers hle steady hnext hnext'
  · exact Plan.report_tightens _ _ _ _

/-- The first of the keywords that govern a node governs it in both runs. -/
theorem governing_tightens (toggles : scope.options.Toggles runs.strict) (root schema : Node)
    (value : Json) (path : Path)
    (steady : Steady runs.strict runs.answers tried scope schema value path) :
    Plan.Tightens runs tried scope (governing scope.options root schema value path)
      (governing (scope.options.under runs.strict) root schema value path) := by
  unfold governing
  cases henum : schema.member? "enum" with
  | some members => exact enumeration_tightens schema members value path
  | none =>
  cases hone : schema.member? "oneOf" with
  | some members =>
    have halternatives : alternatives schema = members.items := by
      rw [alternatives, henum, hone]
    exact oneOf_tightens toggles halternatives steady
  | none =>
  cases schema.member? "allOf" with
  | some members =>
    dsimp only
    unfold allOf
    split
    · exact Plan.all_tightens (each_tightens toggles _ _ _)
    · exact Plan.report_tightens _ _ _ _
  | none =>
  cases schema.member? "anyOf" with
  | some members =>
    dsimp only
    unfold anyOf
    split
    · exact Plan.firstClean_tightens (Plan.report_tightens _ _ _ _)
        (each_tightens toggles _ _ _)
    · exact Plan.report_tightens _ _ _ _
  | none =>
  cases schema.member? "$ref" with
  | some ref => exact reference_tightens toggles root schema ref.json value path
  | none =>
  cases governingType? schema with
  | none => exact Plan.clean_tightens _
  | some type =>
    dsimp only
    split
    · exact union_tightens toggles schema type value path
    · exact type_tightens toggles schema value path type.json

theorem node_tightens (toggles : scope.options.Toggles runs.strict) (root schema : Node)
    (value : Json) (path : Path)
    (steady : Steady runs.strict runs.answers tried scope schema value path) :
    Plan.Tightens runs tried scope (node scope.options root schema value path)
      (node (scope.options.under runs.strict) root schema value path) := by
  unfold node
  split
  · exact Plan.clean_tightens _
  · exact Plan.clean_tightens _
  · exact governing_tightens toggles root schema value path steady
  · exact Plan.report_tightens _ _ _ _

/-- By induction on the budget: where the answers below tighten, so do those of a node. -/
theorem answer_tightens (strict : Options) (budget : Nat) (tried : Bool) (scope : Scope)
    (schema : Node) (value : Json) (path : Path) (violations violations' : List Violation)
    (toggles : scope.options.Toggles strict)
    (steady : ∀ visit ∈ visits budget tried scope schema value path, visit.Steady strict)
    (h : answer .chain budget scope schema value path = .ok violations)
    (h' : answer .chain budget (scope.under strict) schema value path = .ok violations') :
    Covers tried violations violations' := by
  induction budget generalizing tried scope schema value path violations violations' with
  | zero => cases h
  | succ budget ih =>
    let runs : Tightening := ⟨strict, answer .chain budget, visits budget, ih⟩
    have hdepth : (scope.under strict).options.maxDepth = scope.options.maxDepth := rfl
    rw [answer] at h h'
    rw [hdepth] at h'
    rw [visits, List.forall_mem_cons] at steady
    cases hexceeds : Options.exceeds path.length scope.options.maxDepth with
    | none =>
      rw [hexceeds] at h
      cases h
    | some tooDeep =>
      rw [hexceeds] at h h'
      cases tooDeep with
      | true => cases h
      | false =>
        let inner := scope.withDefinitions (declared schema)
        have inner_toggles : inner.options.Toggles runs.strict :=
          ⟨toggles.properties, toggles.items⟩
        exact node_tightens inner_toggles inner.root schema value path steady.1 violations
          violations' steady.2 h h'

end Check

end JsonSchema
