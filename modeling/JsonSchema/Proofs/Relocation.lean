import Mathlib.Data.Rat.Cast.Order
import JsonSchema.Proofs.Nesting
import JsonSchema.Proofs.Termination

/-! A check is the same wherever its value stands. What is said about a value at a place is
what is said about it at the root, with the place put in front of every path: in violations,
in the notices of a hook, and in the links of the references that are being followed. -/
namespace JsonSchema

namespace Path

@[simp] theorem index_append (place path : Path) (i : Nat) :
    index (place ++ path) i = place ++ index path i :=
  List.append_assoc place path [.index i]

@[simp] theorem key_append (place path : Path) (name : String) :
    key (place ++ path) name = place ++ key path name :=
  List.append_assoc place path [.key name]

end Path

def Violation.moved (place : Path) (violation : Violation) : Violation :=
  { violation with path := place ++ violation.path }

def Notice.moved (place : Path) (notice : Notice) : Notice :=
  ⟨notice.violation.moved place, notice.schema, notice.value, place.text ++ notice.place⟩

def Link.moved (place : Path) (link : Link) : Link :=
  { link with path := place ++ link.path }

/-- Of all that can end a check only a circular reference tells its place. -/
def Fault.moved (place : Path) : Fault → Fault
  | .refused (.cycle references) context =>
    .refused (.cycle references) (context.map (place.text ++ ·))
  | f => f

theorem Fault.moved_of_not_ofRun {f : Fault} (plain : ¬ f.OfRun) (place : Path) :
    f.moved place = f := by
  unfold moved
  split
  · exact absurd trivial plain
  · rfl

def Answer.moved (place : Path) : Answer → Answer
  | .ok violations => .ok (violations.map (·.moved place))
  | .error f => .error (f.moved place)

theorem Finding.violation_append (finding : Finding) (place path : Path) :
    finding.violation (place ++ path) = (finding.violation path).moved place :=
  congrArg (Violation.of · finding.kind finding.details finding.template)
    (List.append_assoc place path finding.below)

theorem Violation.notice_moved (violation : Violation) (place : Path) (schema value : Json) :
    (violation.moved place).notice schema value = (violation.notice schema value).moved place :=
  congrArg (Notice.mk (violation.moved place) schema value) (Path.text_append place violation.path)

namespace Plan

/-- A plan with a place in front of all its paths. -/
def moved (place : Path) : Plan → Plan
  | .clean => .clean
  | .fault f => .fault f
  | .report schema value path finding => .report schema value (place ++ path) finding
  | .both first second => .both (first.moved place) (second.moved place)
  | .enter schema value path => .enter schema value (place ++ path)
  | .follow link value => .follow (link.moved place) value
  | .probe branch next => .probe (branch.moved place) fun passes => (next passes).moved place

@[simp] theorem moved_all (place : Path) (plans : List Plan) :
    (Plan.all plans).moved place = Plan.all (plans.map (·.moved place)) := by
  induction plans with
  | nil => rfl
  | cons plan rest ih => rw [all, moved, ih, List.map_cons, all]

/-- Plans that are made alike, each in its place. -/
theorem all_map_moved {α : Type} {place : Path} {there here : α → Plan}
    (each : ∀ a, there a = (here a).moved place) (l : List α) :
    Plan.all (l.map there) = (Plan.all (l.map here)).moved place := by
  rw [moved_all, List.map_map]
  exact congrArg all (List.map_congr_left fun a _ => each a)

@[simp] theorem moved_firstClean (place : Path) (otherwise : Plan) (plans : List Plan) :
    (Plan.firstClean otherwise plans).moved place =
      Plan.firstClean (otherwise.moved place) (plans.map (·.moved place)) := by
  induction plans with
  | nil => rfl
  | cons plan rest ih =>
    rw [firstClean, moved, List.map_cons, firstClean]
    congr 1
    funext passes
    cases passes with
    | true => rfl
    | false => exact ih

@[simp] theorem moved_countClean (place : Path) (next : Nat → Plan) (count : Nat)
    (plans : List Plan) :
    (Plan.countClean next count plans).moved place =
      Plan.countClean (fun count => (next count).moved place) count
        (plans.map (·.moved place)) := by
  induction plans generalizing count with
  | nil => rfl
  | cons plan rest ih =>
    rw [countClean, moved, List.map_cons, countClean]
    congr 1
    funext passes
    exact ih _

@[simp] theorem moved_ofVerdict (place : Path) (schema : Node) (value : Json) (path : Path)
    (verdict : Verdict) :
    (Plan.ofVerdict schema value path verdict).moved place =
      Plan.ofVerdict schema value (place ++ path) verdict := by
  rcases verdict with f | _ | finding <;> rfl

@[simp] theorem moved_settle (place : Path) (schema : Node) (value : Json) (path : Path)
    (verdicts : List Verdict) :
    (Plan.settle schema value path verdicts).moved place =
      Plan.settle schema value (place ++ path) verdicts :=
  (all_map_moved (fun verdict => (moved_ofVerdict place schema value path verdict).symm)
    verdicts).symm

end Plan

namespace Check

variable (options : Options) (root schema : Node) (value : Json) (place path : Path)

theorem each_append (nodes : List Node) :
    each nodes value (place ++ path) = (each nodes value path).map (·.moved place) := by
  simp [each, Plan.moved]

theorem additionalItem_append (additional : Node) (i : Nat) (item : Json) :
    additionalItem schema additional i item (place ++ path) =
      (additionalItem schema additional i item path).moved place := by
  unfold additionalItem
  cases additional.json with
  | bool b => cases b <;> rfl
  | arr _ => simp [Plan.moved, each_append]
  | _ => rfl

theorem tupleItem_append (additional : Node) (tuple : List Node) (i : Nat) (item : Json) :
    tupleItem schema additional tuple (place ++ path) i item =
      (tupleItem schema additional tuple path i item).moved place := by
  unfold tupleItem
  cases tuple[i]? with
  | none => simp [additionalItem_append]
  | some node => simp [Plan.moved]

theorem tupleItems_append (additional : Node) (tuple : List Node) (items : List Json) :
    tupleItems schema additional tuple items (place ++ path) =
      (tupleItems schema additional tuple items path).moved place :=
  Plan.all_map_moved (fun (i, item) => tupleItem_append schema place path additional tuple i item) _

theorem items_append (elements : List Json) :
    items options schema elements (place ++ path) =
      (items options schema elements path).moved place := by
  unfold items
  cases schema.member? "items" with
  | none =>
    dsimp only
    split
    · exact tupleItems_append ..
    · rfl
  | some node =>
    dsimp only
    split
    · exact tupleItems_append ..
    · exact Plan.all_map_moved (fun (i, item) => congrArg (Plan.enter node item)
        (Path.index_append place path i)) _

theorem array_append (elements : List Json) :
    array options schema value elements (place ++ path) =
      (array options schema value elements path).moved place := by
  simp [array, Plan.moved, items_append]

theorem dependency_append (members : Members) (owner : String) (target : Node) :
    dependency schema members (place ++ path) owner target =
      (dependency schema members path owner target).moved place := by
  unfold dependency
  cases target.json with
  | str name =>
    dsimp only
    split <;> rfl
  | _ => rfl

theorem dependencies_append (members : Members) :
    dependencies options schema members (place ++ path) =
      (dependencies options schema members path).moved place := by
  refine Plan.all_map_moved (fun (owner, declared) => ?_) _
  dsimp only
  split
  · rfl
  · exact Plan.all_map_moved (dependency_append schema place path members owner) _

theorem patternName_append (text : String) :
    patternName schema value (place ++ path) text =
      (patternName schema value path text).moved place := by
  unfold patternName
  rcases Pattern.ofText? text with flaw | pattern
  · cases flaw <;> rfl
  · rfl

theorem additionalProperty_append (additional : Node) (members : Members) (name : String) :
    additionalProperty schema additional members name value (place ++ path) =
      (additionalProperty schema additional members name value path).moved place := by
  unfold additionalProperty
  cases additional.json with
  | null => rfl
  | bool b => cases b <;> rfl
  | _ =>
    dsimp only
    split
    · cases additional.member? name <;> rfl
    · rfl

theorem property_append (members : Members) (patterns : Option (List (Pattern × Node)))
    (name : String) :
    property options schema members patterns (place ++ path) name value =
      (property options schema members patterns path name value).moved place := by
  unfold property
  rw [Path.key_append]
  cases (properties schema).lookup name with
  | some node => rfl
  | none =>
    dsimp only
    rcases matching? name (patterns.getD []) with f | _ | node
    · rfl
    · cases schema.member? "additionalProperties" with
      | some additional => exact additionalProperty_append ..
      | none =>
        dsimp only
        split
        · rfl
        · exact additionalProperty_append ..
    · rfl

theorem object_append (members : Members) :
    object options schema members (place ++ path) =
      (object options schema members path).moved place := by
  refine congrArg₂ Plan.both (Plan.moved_settle ..).symm
    (congrArg₂ Plan.both (dependencies_append ..)
      (congrArg₂ Plan.both ?patterns (congrArg₂ Plan.both ?members rfl)))
  case patterns => exact Plan.all_map_moved (fun (text, _) => patternName_append ..) _
  case members => exact Plan.all_map_moved (fun (name, value) => property_append ..) _

theorem ofType_append (type : SchemaType) :
    ofType options schema value (place ++ path) type =
      (ofType options schema value path type).moved place := by
  cases type with
  | any => rfl
  | boolean => cases value <;> rfl
  | null => cases value <;> rfl
  | number =>
    rw [ofType, ofType]
    split
    · exact (Plan.moved_settle ..).symm
    · rfl
  | integer =>
    rw [ofType, ofType]
    split
    · exact (Plan.moved_settle ..).symm
    · rfl
  | string =>
    cases value with
    | str s => exact (Plan.moved_settle ..).symm
    | _ => rfl
  | array =>
    cases value with
    | arr elements => exact array_append ..
    | _ => rfl
  | object =>
    cases value with
    | obj members => exact object_append ..
    | _ => rfl

theorem type_append (named : Json) :
    type options schema value (place ++ path) named =
      (type options schema value path named).moved place := by
  unfold type
  cases namedType? named with
  | some type => exact ofType_append ..
  | none => rfl

theorem union_append (members : Node) :
    union options schema members value (place ++ path) =
      (union options schema members value path).moved place := by
  have hmember (member : Node) : unionMember options schema value (place ++ path) member =
      (unionMember options schema value path member).moved place := by
    unfold unionMember
    split
    · rfl
    · exact type_append ..
  simp only [union, Plan.moved_firstClean, List.map_map]
  exact congrArg _ (List.map_congr_left fun member _ => hmember member)

theorem enumeration_append (members : Node) :
    enumeration schema members value (place ++ path) =
      (enumeration schema members value path).moved place := by
  unfold enumeration
  split
  · split <;> rfl
  · rfl

theorem reference_append (ref : Json) :
    reference options root schema ref value (place ++ path) =
      (reference options root schema ref value path).moved place := by
  unfold reference
  split
  · rfl
  · rcases resolve? ref options.definitions root with bad | _ | target <;> rfl

theorem governing_append :
    governing options root schema value (place ++ path) =
      (governing options root schema value path).moved place := by
  unfold governing
  cases schema.member? "enum" with
  | some members => exact enumeration_append ..
  | none =>
  cases schema.member? "oneOf" with
  | some members =>
    dsimp only [oneOf]
    split
    · simp [each_append]
    · rfl
  | none =>
  cases schema.member? "allOf" with
  | some members =>
    dsimp only [allOf]
    split
    · simp [each_append]
    · rfl
  | none =>
  cases schema.member? "anyOf" with
  | some members =>
    dsimp only [anyOf]
    split
    · simp [each_append, Plan.moved]
    · rfl
  | none =>
  cases schema.member? "$ref" with
  | some ref => exact reference_append ..
  | none =>
  cases governingType? schema with
  | none => rfl
  | some type =>
    dsimp only
    split
    · exact union_append ..
    · exact type_append ..

/-- What a node asks for at a place is what it asks for at the root, at that place. -/
theorem node_append :
    node options root schema value (place ++ path) =
      (node options root schema value path).moved place := by
  unfold node
  split
  · rfl
  · rfl
  · exact governing_append ..
  · rfl

end Check

/-- What is within the limit leaves room for anything shorter. -/
theorem Options.exceeds_mono {less more : Nat} (le : less ≤ more) {limit : Json}
    (h : exceeds more limit = some false) : exceeds less limit = some false := by
  cases limit with
  | bool b =>
    simp only [exceeds, Option.some.injEq, decide_eq_false_iff_not] at h ⊢
    omega
  | int n =>
    simp only [exceeds, Option.some.injEq, decide_eq_false_iff_not] at h ⊢
    omega
  | float x =>
    rw [exceeds, Option.some.injEq] at h ⊢
    revert h
    rcases x.quantity? with _ | _ | q | _
    · exact id
    · exact id
    · simp only [Option.any_some, Quantity.ofNat, Quantity.lt, decide_eq_false_iff_not, not_lt]
      exact le_trans (Nat.cast_le.mpr le)
    · exact id
  | _ => cases h

/-- Whether all parts of a value that stands at a path are within a limit on the length of
paths. -/
def Json.Fits (value : Json) (path : Path) (limit : Json) : Prop :=
  Options.exceeds (path.length + value.height) limit = some false

namespace Json.Fits

variable {value part : Json} {place path : Path} {limit : Json}

theorem here (fits : value.Fits path limit) : Options.exceeds path.length limit = some false :=
  Options.exceeds_mono (Nat.le_add_right _ _) fits

theorem onward {step : Step} (fits : value.Fits path limit) (h : value.Part step part) :
    part.Fits (path ++ [step]) limit := by
  refine Options.exceeds_mono ?_ fits
  have hheight := h.height_lt
  rw [List.length_append, List.length_singleton]
  omega

/-- What fits at a place below another fits with that place taken away. -/
theorem of_append (fits : value.Fits (place ++ path) limit) : value.Fits path limit := by
  refine Options.exceeds_mono ?_ fits
  rw [List.length_append]
  omega

end Json.Fits

theorem Link.isSame_moved (place : Path) (a b : Link) :
    (a.moved place).isSame (b.moved place) = a.isSame b := by
  have hpath : (place ++ a.path == place ++ b.path) = (a.path == b.path) := by
    rw [Bool.eq_iff_iff, beq_iff_eq, beq_iff_eq, List.append_cancel_left_eq]
  exact congrArg ((a.reference == b.reference && a.target.isSame b.target) && ·) hpath

namespace Scope

/-- A scope with a place in front of the paths of its chain. -/
def moved (place : Path) (scope : Scope) : Scope :=
  { scope with chain := scope.chain.map (·.moved place) }

theorem moved_of_unfollowed {scope : Scope} (unfollowed : scope.chain = []) (place : Path) :
    scope.moved place = scope := by
  rw [moved, unfollowed, List.map_nil, ← unfollowed]

theorem any_isSame_moved (place : Path) (link : Link) (chain : List Link) :
    (chain.map (·.moved place)).any (·.isSame (link.moved place)) = chain.any (·.isSame link) := by
  rw [List.any_map]
  exact congrArg chain.any (funext fun other => Link.isSame_moved place other link)

theorem loopNames_moved (place : Path) (link : Link) (chain : List Link) :
    loopNames (link.moved place) (chain.map (·.moved place)) = loopNames link chain := by
  unfold loopNames
  rw [List.dropWhile_map, List.map_map]
  have hsame : (fun other : Link => !other.isSame (link.moved place)) ∘ (·.moved place) =
      fun other : Link => !other.isSame link :=
    funext fun other => congrArg not (Link.isSame_moved place other link)
  rw [hsame]
  rfl

/-- A reference is refused at a place if it is refused at the root. -/
theorem follow_moved (scope : Scope) (place : Path) (link : Link) :
    (scope.moved place).follow (link.moved place) =
      ((scope.follow link).map (Scope.moved place)).mapError (Fault.moved place) := by
  unfold follow
  change (if (scope.chain.map (·.moved place)).any (·.isSame (link.moved place)) then _ else _) = _
  rw [any_isSame_moved]
  split
  · change Except.error (Fault.refused (.cycle (loopNames (link.moved place)
      (scope.chain.map (·.moved place)) ++ [link.reference])) (Path.text (place ++ link.path))) = _
    rw [loopNames_moved, Path.text_append]
    rfl
  · simp [moved, Except.map, Except.mapError]

end Scope

/-- What a hook hears at a place, for a run at the root. -/
def Hook.above (place : Path) (heard : List Notice) (hook : Hook) : Hook :=
  fun told => hook (heard ++ told.map (·.moved place))

/-- A run at the root, as it is at a place where some notices have been heard. -/
def movedRun (place : Path) (heard : List Notice) (run : Answer × List Notice) :
    Answer × List Notice :=
  (run.1.moved place, heard ++ run.2.map (·.moved place))

theorem hearing_moved (place : Path) (hook : Option Hook) (answer : Answer)
    (heard before told : List Notice) :
    hearing hook (answer.moved place) (heard ++ before.map (·.moved place))
        (told.map (·.moved place)) =
      movedRun place heard (hearing (hook.map (·.above place heard)) answer before told) := by
  cases hook with
  | none => rw [Option.map_none, hearing_none, hearing_none, movedRun]
  | some listens =>
    induction told generalizing before with
    | nil => rfl
    | cons notice rest ih =>
      have hheard : heard ++ before.map (·.moved place) ++ [notice.moved place] =
          heard ++ (before ++ [notice]).map (·.moved place) := by simp
      have hasked : listens.above place heard (before ++ [notice]) =
          listens (heard ++ (before ++ [notice]).map (·.moved place)) := rfl
      rw [List.map_cons, Option.map_some, hearing_cons, hearing_cons, hheard, hasked]
      cases listens (heard ++ (before ++ [notice]).map (·.moved place)) with
      | some message => rfl
      | none => exact ih (before ++ [notice])

/-- What comes next at the place is what comes next at the root. -/
theorem onward_movedRun {place : Path} {heard : List Notice}
    {next next' : List Violation → List Notice → Answer × List Notice}
    (hnext : ∀ found after, next' (found.map (·.moved place)) (heard ++ after.map (·.moved place)) =
      movedRun place heard (next found after)) (run : Answer × List Notice) :
    Check.onward (movedRun place heard run) next' =
      movedRun place heard (Check.onward run next) := by
  rcases run with ⟨f | found, after⟩
  · rfl
  · exact hnext found after

/-- In the nodes below, a run at a place is the one at the root, as it is at the place. -/
def Descent.Moves (place : Path) (heard : List Notice) (hook : Option Hook) (limit : Json)
    (descend : Descent) : Prop :=
  ∀ (scope : Scope) trials schema value path told, scope.options.maxDepth = limit →
    value.Fits (place ++ path) limit →
    (descend ((scope.moved place).listening trials hook) schema value (place ++ path)).on
        (heard ++ told.map (·.moved place)) =
      movedRun place heard
        ((descend (scope.listening trials (hook.map (·.above place heard))) schema value path).on
          told)

section

variable {place path : Path} {heard : List Notice} {hook : Option Hook} {limit : Json}
  {schema : Node} {value : Json}

/-- A plan that is gone through at a place, above nodes that are. By induction on the plan. -/
theorem Plan.run_moved {descend : Descent} (moves : descend.Moves place heard hook limit)
    {plan : Plan} {scope : Scope} (hlimit : scope.options.maxDepth = limit)
    (every : plan.Every (fun f => ¬ f.OfRun) (fun _ part path' => part.Fits (place ++ path') limit)
      (fun link part => part.Fits (place ++ link.path) limit))
    (trials : Nat) (told : List Notice) :
    ((plan.moved place).run .chain descend ((scope.moved place).listening trials hook)).on
        (heard ++ told.map (·.moved place)) =
      movedRun place heard
        ((plan.run .chain descend
          (scope.listening trials (hook.map (·.above place heard)))).on told) := by
  induction plan generalizing trials told with
  | clean => rfl
  | fault f =>
    exact congrArg (fun f => (Except.error f, _)) (Fault.moved_of_not_ofRun every place).symm
  | report schema value path finding =>
    rw [moved, run, run, on_report, on_report, Finding.violation_append, Violation.notice_moved]
    have := hearing_moved place hook (.ok [finding.violation path]) heard told
      (if trials = 0 then [(finding.violation path).notice schema.json value] else [])
    rw [← this]
    split <;> rfl
  | both first second ihFirst ihSecond =>
    rw [moved, on_run_both, on_run_both, ihFirst every.1]
    refine onward_movedRun (fun here after => ?_) _
    rw [ihSecond every.2]
    refine onward_movedRun (fun there last => ?_) _
    rw [movedRun, Answer.moved, List.map_append]
  | enter schema value path => exact moves scope trials schema value path told hlimit every
  | follow link value =>
    rw [moved, on_run_follow, on_run_follow, Guard.chain_ignoresHook.follow,
      Guard.chain_ignoresHook.follow]
    change Check.onward (((scope.moved place).follow (link.moved place)).map _, _) _ = movedRun
      place heard (Check.onward ((scope.follow link).map _, _) _)
    rw [Scope.follow_moved]
    rcases hfollow : scope.follow link with f | next
    · rfl
    · have hnext : next.options.maxDepth = limit := by
        rw [(Scope.follow_ok hfollow).2]
        exact hlimit
      exact moves next trials link.target value link.path told hnext every
  | probe branch next ihBranch ihNext =>
    rw [moved, on_run_probe, on_run_probe]
    have hbranch := ihBranch every.1 (trials + 1) told
    change ((branch.moved place).run _ _ ((scope.moved place).listening trials hook).trial).on _ = _
      at hbranch
    rw [hbranch]
    refine onward_movedRun (fun found after => ?_) _
    rw [List.isEmpty_map]
    exact ihNext found.isEmpty (every.2 found.isEmpty) trials after

/-- All that a node leads to fits if its value does. -/
theorem Check.node_every_fits {options : Options} {root : Node}
    (fits : value.Fits (place ++ path) limit) :
    (node options root schema value path).Every (fun f => ¬ f.OfRun)
      (fun _ part path' => part.Fits (place ++ path') limit)
      (fun link part => part.Fits (place ++ link.path) limit) := by
  refine node_every_plain.imp (fun _ => id) (fun inner part path' leads => ?_)
    fun link part refers => ?_
  · cases leads with
    | here => exact fits
    | part step _ hpart =>
      rw [← List.append_assoc]
      exact fits.onward hpart
  · cases refers with
    | ref => exact fits

/-- By induction on the budget: what a node leads to at a place is what it leads to at the
root, and neither place is too deep. -/
theorem Check.descend_moves (place : Path) (heard : List Notice) (hook : Option Hook)
    (limit : Json) (budget : Nat) :
    Descent.Moves place heard hook limit (descend .chain budget) := by
  induction budget with
  | zero => exact fun _ _ _ _ _ _ _ _ => rfl
  | succ budget ih =>
    intro scope trials schema value path told hlimit fits
    rw [descend_within (hlimit ▸ fits.here), descend_within (hlimit ▸ fits.of_append.here)]
    let inner := scope.withDefinitions (declared schema)
    have hlimit' : inner.options.maxDepth = limit := hlimit
    have every : (node inner.options inner.root schema value path).Every (fun f => ¬ f.OfRun)
        (fun _ part path' => part.Fits (place ++ path') limit)
        (fun link part => part.Fits (place ++ link.path) limit) := node_every_fits fits
    have hrun := Plan.run_moved ih hlimit' every trials told
    rw [← node_append] at hrun
    exact hrun

end

namespace Session

/-- A run as an answer of a session, which stays what it is. -/
def replyTo (session : Session) (run : Answer × List Notice) :
    Except Fault Reply × Session × List Notice :=
  (run.1.map .violations, session, run.2)

theorem step_descend (session : Session) (heard : List Notice) (schema : Node) (value : Json)
    (path : Path) :
    session.step heard (.descend schema value path) =
      session.replyTo ((Check.descend .chain (enoughIn session.scope schema value) session.scope
        schema value path).on heard) :=
  act_of_keeps (Check.descendInPlace_keeps (enoughIn session.scope schema value) session.scope
    schema value path)

/-- The steps of a session, and any more, suffice for any node. -/
theorem answer_enoughIn {scope : Scope} {schema : Node} {value : Json} {steps : Nat}
    (le : enoughIn scope schema value ≤ steps) (path : Path) :
    Check.answer .chain steps scope schema value path ≠ .error .exhausted := by
  let tops := schema :: scope.tops
  have hextent : Node.extent tops =
      scope.root.json.size + schema.json.size + scope.options.size := by
    change schema.json.size + Node.extent scope.tops = _
    rw [scope.extent_tops]
    omega
  have hschema : Node.Among tops schema := ⟨schema, List.mem_cons_self, .self schema⟩
  have hscope : scope.Among tops := scope.among_tops.mono (List.subset_cons_self schema scope.tops)
  have hwanes := Guard.chain_wanes tops
  apply Check.answer_ends hwanes hscope hschema
  rw [hextent] at hwanes ⊢
  exact Nat.lt_of_lt_of_le (rank_lt_budget hextent (hwanes.room_le scope path) hschema) le

theorem on_descend_ne_exhausted {scope : Scope} {schema : Node} {value : Json} {steps : Nat}
    (le : enoughIn scope schema value ≤ steps) (path : Path) (heard : List Notice) :
    ((Check.descend .chain steps scope schema value path).on heard).1 ≠ .error .exhausted := by
  obtain ⟨told, htold⟩ := Check.descend_tells Guard.chain_ignoresHook steps scope scope.trials
    schema value path
  have hrun := htold.on_eq scope.options.hook heard
  change (Check.descend _ _ scope _ _ _).on heard = _ at hrun
  rw [hrun]
  intro hends
  rcases hearing_fst scope.options.hook _ heard told with hsame | ⟨message, hstop⟩
  · exact answer_enoughIn le path (hsame.symm.trans hends)
  · cases hstop.symm.trans hends

/-- More steps than a session takes make no difference. -/
theorem step_descend_of_le {session : Session} {schema : Node} {value : Json} {steps : Nat}
    (le : enoughIn session.scope schema value ≤ steps) (path : Path) (heard : List Notice) :
    session.step heard (.descend schema value path) =
      session.replyTo ((Check.descend .chain steps session.scope schema value path).on heard) := by
  have hmore := Check.descend_agrees (Guard.chain.simulates_self (· = .exhausted)) rfl le
    session.scope session.scope rfl schema value path heard
    (avoids_exhausted (on_descend_ne_exhausted (Nat.le_refl _) path heard))
  rw [step_descend, hmore]

/-- Where no reference is being followed, a check at a place tells the answer that it has at
the root, with the place put in front. -/
theorem step_descend_at {session : Session} (unfollowed : session.scope.chain = [])
    (heard : List Notice) (schema : Node) (value : Json) :
    ∃ (answer : Answer) (told : List Notice), answer ≠ .error .exhausted ∧
      ∀ place, value.Fits place session.scope.options.maxDepth →
        session.step heard (.descend schema value place) =
          session.replyTo (hearing session.scope.options.hook (answer.moved place) heard
            (told.map (·.moved place))) := by
  let scope := session.scope
  obtain ⟨told, htold⟩ := Check.descend_tells Guard.chain_ignoresHook
    (enoughIn scope schema value) scope scope.trials schema value []
  refine ⟨Check.answer .chain (enoughIn scope schema value) scope schema value [], told,
    answer_enoughIn (Nat.le_refl _) [], fun place fits => ?_⟩
  have hmoves := Check.descend_moves place heard scope.options.hook scope.options.maxDepth
    (enoughIn scope schema value) scope scope.trials schema value [] [] rfl
    (by rwa [List.append_nil])
  rw [htold.on_eq, ← hearing_moved, Scope.moved_of_unfollowed unfollowed, List.append_nil,
    List.map_nil, List.append_nil] at hmoves
  rw [step_descend]
  exact congrArg session.replyTo hmoves

end Session

end JsonSchema
