import JsonSchema.Proofs.Cycle
import JsonSchema.Proofs.Expansion

/-! Validation with a schema and with what it is expanded to. The runs are in step, but for the
references that have been expanded: the one run follows them, and the other is there already. -/
namespace JsonSchema

/-- Violations that are the same but for how the members of a union are shown. -/
inductive Violation.SameButTypes : Violation → Violation → Prop
  | same (violation : Violation) : SameButTypes violation violation
  | types (path : Path) {members members' : List Json} :
      List.Forall₂ (fun member member' => member' = member ∨
        member.isObject ∧ member'.isObject) members members' →
      SameButTypes ((Check.unionFinding members).violation path)
        ((Check.unionFinding members').violation path)

/-- Notices look alike if their violations do, whatever the schemas that are not met. -/
def View.exceptTypes : View where
  notices notice notice' := notice.violation.SameButTypes notice'.violation ∧
    notice'.value = notice.value ∧ notice'.place = notice.place
  violations := Violation.SameButTypes
  of_notices h := h.1

/-- A guard that refuses no reference that has not been followed at its place. -/
structure Guard.Lenient (guard : Guard) : Prop where
  declare : guard.declare = Scope.withDefinitions
  follow {scope : Scope} {link : Link} : scope.hasFollowed link = false →
    guard.follow scope link = .ok { scope with chain := scope.chain ++ [link] }

theorem Guard.unguarded_lenient : Guard.unguarded.Lenient :=
  ⟨rfl, fun _ => rfl⟩

theorem Guard.chain_lenient : Guard.chain.Lenient where
  declare := rfl
  follow {scope link} fresh := by
    have hfresh : scope.chain.any (·.isSame link) = false := by
      rw [List.any_eq_false]
      intro other hother hsame
      unfold Link.isSame at hsame
      rw [Bool.and_eq_true, Bool.and_eq_true] at hsame
      have hnot := List.any_eq_false.mp fresh other hother
      rw [hsame.1.1, hsame.2] at hnot
      exact hnot rfl
    change Scope.follow scope link = _
    rw [Scope.follow, hfresh]
    rfl

namespace Scope

/-- The links that have been followed lead no deeper than a place, and those at the place
are of some names. -/
def Followed (scope : Scope) (seen : List String) (path : Path) : Prop :=
  ∀ link ∈ scope.chain,
    link.path.length ≤ path.length ∧ (link.path = path → link.reference ∈ seen)

variable {scope : Scope} {seen : List String} {path : Path}

/-- Deeper in the value nothing has been followed yet. -/
theorem Followed.deeper (h : scope.Followed seen path) (names : List String) (step : Step) :
    scope.Followed names (path ++ [step]) := by
  intro link hlink
  have hle := (h link hlink).1
  rw [List.length_append]
  refine ⟨by omega, fun heq => ?_⟩
  rw [heq, List.length_append, List.length_singleton] at hle
  omega

theorem Followed.fresh (h : scope.Followed seen path) {link : Link} (place : link.path = path)
    (unseen : link.reference ∉ seen) : scope.hasFollowed link = false := by
  refine List.any_eq_false.mpr fun other hother hsame => ?_
  rw [Bool.and_eq_true, beq_iff_eq, beq_iff_eq] at hsame
  exact unseen (hsame.1 ▸ (h other hother).2 (hsame.2.trans place))

theorem Followed.cons (h : scope.Followed seen path) (name : String) :
    scope.Followed (name :: seen) path :=
  fun link hlink => ⟨(h link hlink).1, fun heq => List.mem_cons_of_mem name ((h link hlink).2 heq)⟩

theorem Followed.append (h : scope.Followed seen path) {link : Link} (place : link.path = path) :
    Followed { scope with chain := scope.chain ++ [link] } (link.reference :: seen) path := by
  intro other hother
  rcases List.mem_append.mp hother with hold | hnew
  · exact h.cons link.reference other hold
  · cases List.mem_singleton.mp hnew
    exact ⟨Nat.le_of_eq (congrArg List.length place), fun _ => List.mem_cons_self⟩

end Scope

/-- Options under which references are followed, whose own schemas lead to the same on both sides,
and whose hook does not tell the difference. -/
structure Options.Inlines (options : Options) (target target' : String → Option Json) : Prop where
  omitRefs : options.omitRefs.isOn = false
  hook : View.exceptTypes.Bounds options.hook
  additionalItems : ∀ part ∈ Position.either.schemas options.additionalItems.json,
    part.Expands target target' false [] part
  additionalProperties : ∀ part ∈ Position.additional.schemas options.additionalProperties.json,
    part.Expands target target' false [] part

/-- References lead to their targets. -/
def Resolves (table : Definitions) (root : Node) (target : String → Option Json) : Prop :=
  ∀ name found, target name = some found →
    ∃ node, resolve? (.str name) table root = .ok (some node) ∧ node.json = found

/-- The scopes of two runs in step, at some place. -/
structure Scope.InStep (options : Options) (table table' : Definitions) (root root' : Node)
    (seen : List String) (path : Path) (scope scope' : Scope) : Prop where
  opened : scope.options = { options with definitions := table }
  opened' : scope'.options = { options with definitions := table' }
  origin : scope.root = root
  origin' : scope'.root = root'
  trials : scope'.trials = scope.trials
  followed : scope.Followed seen path
  followed' : scope'.Followed seen path

namespace Scope.InStep

variable {options : Options} {table table' : Definitions} {root root' : Node} {seen : List String}
  {path : Path} {scope scope' : Scope} {target target' : String → Option Json}
  (inStep : InStep options table table' root root' seen path scope scope')
include inStep

theorem hook_eq : scope'.options.hook = scope.options.hook := by
  rw [inStep.opened, inStep.opened']

theorem maxDepth_eq : scope'.options.maxDepth = scope.options.maxDepth := by
  rw [inStep.opened, inStep.opened']

theorem omitRefs (inlines : options.Inlines target target') :
    scope.options.omitRefs.isOn = false ∧ scope'.options.omitRefs.isOn = false := by
  rw [inStep.opened, inStep.opened']
  exact ⟨inlines.omitRefs, inlines.omitRefs⟩

theorem resolves (h : Resolves table root target) :
    Resolves scope.options.definitions scope.root target := by
  rw [inStep.opened, inStep.origin]
  exact h

theorem resolves' (h : Resolves table' root' target') :
    Resolves scope'.options.definitions scope'.root target' := by
  rw [inStep.opened', inStep.origin']
  exact h

end Scope.InStep

/-- Schemas that are entered at a place are expanded with what has been followed there. -/
def Pairing.expanded (target target' : String → Option Json) (scope scope' : Scope) : Pairing where
  view := .exceptTypes
  nodes place := Node.Holds fun json json' => ∃ seen, scope.Followed seen place ∧
    scope'.Followed seen place ∧ json.Expands target target' false seen json'
  values value value' := value' = value
  links _ _ := False

namespace Check

variable {target target' : String → Option Json} {options : Options} {table table' : Definitions}
  {root root' : Node} {guard guard' : Guard} {scope scope' : Scope} {seen : List String}
  {schema schema' : Node} {value : Json} {path : Path} {budget : Nat}

theorem corresponds_expanded (inlines : options.Inlines target target')
    (inStep : scope.InStep options table table' root root' seen path scope') {members : Members}
    {f g : Json → Json} (hjson : schema.json = .obj members)
    (hjson' : schema'.json = .obj (members.mapSchemas f g))
    (hparts : ∀ member ∈ members, ∀ part ∈ (Position.of member.1).schemas member.2,
      part.Expands target target' false seen (f part)) :
    Corresponds (.expanded target target' scope scope') scope.options scope'.options path schema
      schema' := by
  have hshape : ∀ (place : Path) (json json' : Json), (∃ seen, scope.Followed seen place ∧
      scope'.Followed seen place ∧ json.Expands target target' false seen json') →
      json.SameShape json' := fun _ _ _ ⟨_, _, _, hexpands⟩ => hexpands.sameShape
  -- What the options add is applied deeper only, where nothing has been followed.
  have hadded : ∀ (step : Step) {part : Json}, part.Expands target target' false [] part →
      ∃ seen, scope.Followed seen (path ++ [step]) ∧ scope'.Followed seen (path ++ [step]) ∧
        part.Expands target target' false seen part :=
    fun step _ hexpands =>
      ⟨[], inStep.followed.deeper [] step, inStep.followed'.deeper [] step, hexpands⟩
  have hkeywords : ∀ keyword, isLookedAt keyword → Option.Rel
      ((Position.of keyword).Pairs ((Pairing.expanded target target' scope scope').nodes path))
      (schema.member? keyword) (schema'.member? keyword) := by
    intro keyword looked
    refine Node.keywords_mapSchemas (hshape path) hjson hjson' (fun member hmember part hpart => ?_)
      keyword (ne_definitions_of_isLookedAt looked)
    exact ⟨seen, inStep.followed, inStep.followed', hparts member hmember part hpart⟩
  refine ⟨?_, hkeywords "type" (by decide)⟩
  constructor
  case keywords =>
    intro keyword constraint
    exact hkeywords keyword (isLookedAt_of_isConstraint constraint)
  case requiredNames =>
    refine requiredNames_congr (hkeywords "required" (by decide))
      (hkeywords "properties" (by decide)) ?_
    rintro node node' ⟨names, _, _, hexpands⟩
    exact hexpands.value_required
  case deeper =>
    rintro node node' step ⟨names, hfollowed, hfollowed', hexpands⟩
    exact ⟨names, hfollowed.deeper names step, hfollowed'.deeper names step, hexpands⟩
  case akin =>
    rintro _ node node' ⟨names, _, _, hexpands⟩
    exact hexpands.akin
  case resembles =>
    rintro _ _ rfl
    exact Json.resembles_self _ _
  case whole => exact fun _ _ _ => id
  case needed =>
    intro members members' name hvalue _ _
    cases hvalue
    rfl
  case seen => exact fun hvalue violation => ⟨.same violation, hvalue, rfl⟩
  case types =>
    intro named named' value value' _ _ hvalue hnodes
    refine ⟨.types path ?_, hvalue, rfl⟩
    rw [List.forall₂_map_left_iff, List.forall₂_map_right_iff]
    refine hnodes.imp ?_
    rintro node node' ⟨_, _, _, hexpands⟩
    cases hobject : node.json.isObject with
    | false => exact .inl (hexpands.eq_of_atom hobject)
    | true => exact .inr ⟨rfl, hexpands.isObject_eq.trans hobject⟩
  case omits =>
    rw [inStep.opened, inStep.opened']
    rfl
  case validateFormat => rw [inStep.opened, inStep.opened']
  case additionalItems =>
    intro step
    rw [inStep.opened, inStep.opened']
    exact Node.pairs_map (f := id) (hshape _) .either (Position.map_id _ _).symm
      fun part hpart => hadded step (inlines.additionalItems part hpart)
  case additionalProperties =>
    intro step
    rw [inStep.opened, inStep.opened']
    exact Node.pairs_map (f := id) (hshape _) .additional (Position.map_id _ _).symm
      fun part hpart => hadded step (inlines.additionalProperties part hpart)

/-- Runs in step from below remain so above, in the scopes of some plan. -/
theorem keeps_expanded (inlines : options.Inlines target target')
    (inStep : scope.InStep options table table' root root' seen path scope')
    {descend descend' : Descent}
    (below : ∀ {next next' : Scope} {names : List String} {place : Path} {node node' : Node},
      next.InStep options table table' root root' names place next' →
      node.json.Expands target target' false names node'.json → ∀ value : Json,
        Parallels .exceptTypes (descend next node value place) (descend' next' node' value place)) :
    (Pairing.expanded target target' scope scope').Keeps
      (fun next next' => ∃ trials, next = { scope with trials } ∧ next' = { scope' with trials })
      guard guard' descend descend' := by
  constructor
  case hook =>
    rintro _ _ ⟨trials, rfl, rfl⟩
    exact inStep.hook_eq
  case bounds =>
    rintro _ _ ⟨trials, rfl, rfl⟩
    change View.exceptTypes.Bounds scope.options.hook
    rw [inStep.opened]
    exact inlines.hook
  case trials =>
    rintro _ _ ⟨trials, rfl, rfl⟩
    rfl
  case trial =>
    rintro _ _ ⟨trials, rfl, rfl⟩
    exact ⟨trials + 1, rfl, rfl⟩
  case enter =>
    rintro _ _ node node' own _ place ⟨trials, rfl, rfl⟩ ⟨names, hfollowed, hfollowed', hexpands⟩
      hvalue
    cases hvalue
    refine below ?_ hexpands own
    exact ⟨inStep.opened, inStep.opened', inStep.origin, inStep.origin', rfl, hfollowed, hfollowed'⟩
  case follow => exact fun _ hlinks => hlinks.elim

/-- The check of a node with a governing reference is to follow it. -/
theorem node_of_reference {members : Members} {name : String} {node : Node}
    (hjson : schema.json = .obj members) (governs : governingReference? members = some (.str name))
    (omitRefs : options.omitRefs.isOn = false)
    (hnode : resolve? (.str name) options.definitions root = .ok (some node)) :
    Check.node options root schema value path = .follow ⟨name, node, path⟩ value := by
  have hmember : ∀ keyword, schema.member? keyword =
      (members.lookup keyword).map (schema.below (.key keyword)) := by
    intro keyword
    rw [Node.member?, hjson]
  obtain ⟨habsent, href⟩ := governingReference?_eq_some_iff.mp governs
  simp only [combinators, List.forall_mem_cons, List.not_mem_nil, false_imp_iff, implies_true,
    and_true] at habsent
  obtain ⟨henum, hone, hall, hany⟩ := habsent
  rw [node_of_obj hjson, governing, hmember, hmember, hmember, hmember, hmember, henum, hone,
    hall, hany, href]
  simp only [Option.map_none, Option.map_some]
  unfold reference
  rw [omitRefs, Node.below, hnode]
  rfl

/-- A node without a governing reference, if nothing else governs it either, has none at all. -/
theorem no_reference {members : Members} (hjson : schema.json = .obj members)
    (habsent : ∀ keyword ∈ combinators, schema.member? keyword = none)
    (ungoverned : governingReference? members = none) : schema.member? "$ref" = none := by
  unfold Node.member? at habsent ⊢
  rw [hjson] at habsent ⊢
  simp only [Option.map_eq_none_iff] at habsent ⊢
  cases href : members.lookup "$ref" with
  | none => rfl
  | some ref =>
    rw [governingReference?_eq_some_iff.mpr ⟨habsent, href⟩] at ungoverned
    cases ungoverned

/-- Where definitions make no difference, a run is that of the plan in the same scope. -/
theorem descend_of_shallow (lenient : guard.Lenient)
    (settled : scope.withDefinitions (declared schema) = scope)
    (shallow : Options.exceeds path.length scope.options.maxDepth = some false) :
    descend guard (budget + 1) scope schema value path =
      (node scope.options scope.root schema value path).run guard (descend guard budget) scope := by
  unfold descend
  rw [shallow]
  dsimp only
  rw [lenient.declare, settled]

/-- Under a lenient guard a reference that is new at its place is followed. -/
theorem descend_of_reference (lenient : guard.Lenient)
    (settled : scope.withDefinitions (declared schema) = scope)
    (shallow : Options.exceeds path.length scope.options.maxDepth = some false)
    {members : Members} {name : String} {node : Node} (hjson : schema.json = .obj members)
    (governs : governingReference? members = some (.str name))
    (omitRefs : scope.options.omitRefs.isOn = false)
    (hnode : resolve? (.str name) scope.options.definitions scope.root = .ok (some node))
    (followed : scope.Followed seen path) (unseen : name ∉ seen) :
    descend guard (budget + 1) scope schema value path =
      descend guard budget { scope with chain := scope.chain ++ [⟨name, node, path⟩] } node value
        path := by
  have hfresh : scope.hasFollowed ⟨name, node, path⟩ = false := followed.fresh rfl unseen
  rw [descend_of_shallow lenient settled shallow, node_of_reference hjson governs omitRefs hnode,
    Plan.run, lenient.follow hfresh]
  rfl

/-- A node without definitions declares nothing. -/
theorem withDefinitions_of_no_definitions (h : schema.json.entries.lookup "definitions" = none)
    (scope : Scope) : scope.withDefinitions (declared schema) = scope := by
  have hdeclared : declared schema = [] := by
    unfold declared Node.member?
    unfold Json.entries at h
    cases hjson : schema.json with
    | obj members =>
      rw [hjson] at h
      dsimp only at h ⊢
      rw [h]
      rfl
    | _ => rfl
  rw [hdeclared]
  exact Scope.withDefinitions_of_not_adds rfl

/-- Beyond the limit on nesting both runs end in the same fault. -/
theorem descend_of_deep (inStep : scope.InStep options table table' root root' seen path scope')
    (deep : Options.exceeds path.length scope.options.maxDepth ≠ some false) (budget' : Nat) :
    Parallels .exceptTypes (descend guard (budget + 1) scope schema value path)
      (descend guard' (budget' + 1) scope' schema' value path) := by
  unfold descend
  rw [inStep.maxDepth_eq]
  rcases hdepth : Options.exceeds path.length scope.options.maxDepth with _ | _ | _
  · exact throw_parallels _ _
  · exact absurd hdepth deep
  · exact throw_parallels _ _

/-- By induction on the budget: the runs of a schema and of what it is expanded to are in step.
Where a reference has been expanded, only the first goes on. -/
theorem descend_expanded (lenient : guard.Lenient) (lenient' : guard'.Lenient)
    (inlines : options.Inlines target target') (resolves : Resolves table root target)
    (resolves' : Resolves table' root' target') (budget budget' : Nat) (le : budget ≤ budget')
    {declares : Bool} {scope scope' : Scope} {schema schema' : Node}
    (inStep : scope.InStep options table table' root root' seen path scope')
    (settled : scope.withDefinitions (declared schema) = scope)
    (settled' : scope'.withDefinitions (declared schema') = scope')
    (expands : schema.json.Expands target target' declares seen schema'.json) (value : Json) :
    Parallels .exceptTypes (descend guard budget scope schema value path)
      (descend guard' budget' scope' schema' value path) := by
  induction budget generalizing budget' declares scope scope' schema schema' seen path value with
  | zero =>
    intro heard heard' _ ends
    exact absurd rfl (ends _ rfl)
  | succ budget ih =>
    obtain ⟨larger, rfl⟩ : ∃ larger, budget' = larger + 1 := ⟨budget' - 1, by omega⟩
    obtain ⟨homitRefs, homitRefs'⟩ := inStep.omitRefs inlines
    by_cases hdepth : Options.exceeds path.length scope.options.maxDepth = some false
    · have hdepth' : Options.exceeds path.length scope'.options.maxDepth = some false := by
        rw [inStep.maxDepth_eq, hdepth]
      -- Below the root nothing is declared.
      have hbelow : ∀ {budget' : Nat}, budget ≤ budget' → ∀ {next next' : Scope}
          {names : List String} {place : Path} {node node' : Node},
          next.InStep options table table' root root' names place next' →
          node.json.Expands target target' false names node'.json → ∀ value : Json,
            Parallels .exceptTypes (descend guard budget next node value place)
              (descend guard' budget' next' node' value place) :=
        fun le _ _ _ _ _ _ inStep expands value => ih _ le inStep
          (withDefinitions_of_no_definitions expands.no_definitions.1 _)
          (withDefinitions_of_no_definitions expands.no_definitions.2 _) expands value
      have hkeeps : (Pairing.expanded target target' scope scope').Keeps _ guard guard' _ _ :=
        keeps_expanded inlines inStep (hbelow (Nat.le_of_succ_le_succ le))
      have hsame : ∃ trials, scope = { scope with trials } ∧ scope' = { scope' with trials } :=
        ⟨scope.trials, rfl, by rw [← inStep.trials]⟩
      generalize hjson : schema.json = json at expands
      generalize hjson' : schema'.json = json' at expands
      cases expands with
      | atom atom =>
        rw [descend_of_shallow lenient settled hdepth, descend_of_shallow lenient' settled' hdepth']
        refine Plan.run_parallels hkeeps (atom_parallels (fun violation => ?_) ?_ ?_) hsame
        · exact ⟨.same violation, rfl, rfl⟩
        · rw [hjson, atom]
        · rw [hjson, hjson']
      | @follow _ _ members name found _ plain governs unseen hfound like hexpands =>
        obtain ⟨node, hnode, rfl⟩ := inStep.resolves resolves name found hfound
        rw [descend_of_reference lenient settled hdepth hjson governs homitRefs hnode
          inStep.followed unseen]
        rw [← hjson'] at hexpands
        refine hbelow (Nat.le_of_succ_le le) ?_ hexpands value
        exact { inStep with
          followed := inStep.followed.append rfl
          followed' := inStep.followed'.cons name }
      | @share _ _ members name found found' f g plain governs unseen hfound hfound' hexpands =>
        have hgoverns : governingReference? (members.mapSchemas f g) = some (.str name) := by
          rw [governingReference?_mapSchemas, governs]
        obtain ⟨node, hnode, rfl⟩ := inStep.resolves resolves name found hfound
        obtain ⟨node', hnode', rfl⟩ := inStep.resolves' resolves' name found' hfound'
        rw [descend_of_reference lenient settled hdepth hjson governs homitRefs hnode
          inStep.followed unseen, descend_of_reference lenient' settled' hdepth' hjson' hgoverns
          homitRefs' hnode' inStep.followed' unseen]
        refine hbelow (Nat.le_of_succ_le_succ le) ?_ hexpands value
        exact { inStep with
          followed := inStep.followed.append rfl
          followed' := inStep.followed'.append rfl }
      | @keep _ _ members f g plain ungoverned hparts =>
        rw [descend_of_shallow lenient settled hdepth, descend_of_shallow lenient' settled' hdepth']
        have hcorresponds := corresponds_expanded inlines inStep hjson hjson' hparts
        refine Plan.run_parallels hkeeps (hcorresponds.node_parallels rfl ?_ ?_ ?_) hsame
        · rw [hjson]
          rfl
        · rw [hjson']
          rfl
        · intro habsent ref ref' href
          rw [no_reference hjson habsent ungoverned] at href
          cases href
    · exact descend_of_deep inStep hdepth larger

/-- What the nodes below do not refuse as circular, a plan without a guard does not either. -/
theorem answer_unguarded_not_circular {answers : Answers}
    (below : ∀ scope schema value path, ¬ Circular (answers scope schema value path))
    {enters : Node → Json → Path → Prop} {follows : Link → Json → Prop} {plan : Plan}
    (every : plan.Every (fun f => ¬ f.OfRun) enters follows) (scope : Scope) :
    ¬ Circular (plan.answer .unguarded answers scope) := by
  rintro ⟨references, context, h⟩
  induction plan with
  | clean => cases h
  | fault f =>
    cases h
    exact every trivial
  | report => cases h
  | both first second ihFirst ihSecond =>
    cases hfirst : first.answer .unguarded answers scope with
    | error f =>
      rw [Plan.answer_both_of_error hfirst] at h
      exact ihFirst every.1 (hfirst.trans h)
    | ok here =>
      rw [Plan.answer_both_of_ok hfirst] at h
      refine ihSecond every.2 ?_
      cases hsecond : second.answer .unguarded answers scope with
      | error f =>
        rw [hsecond] at h
        exact congrArg _ (Except.error.inj h)
      | ok there =>
        rw [hsecond] at h
        cases h
  | enter schema value path => exact below scope schema value path ⟨references, context, h⟩
  | follow link value => exact below _ link.target value link.path ⟨references, context, h⟩
  | probe branch next ihBranch ihNext =>
    cases hbranch : branch.answer .unguarded answers scope with
    | error f =>
      rw [Plan.answer_probe_of_error hbranch] at h
      exact ihBranch every.1 (hbranch.trans h)
    | ok found =>
      rw [Plan.answer_probe_of_ok hbranch] at h
      exact ihNext found.isEmpty (every.2 found.isEmpty) h

/-- Without a guard nothing is refused as circular. -/
theorem unguarded_not_circular (budget : Nat) (scope : Scope) (schema : Node) (value : Json)
    (path : Path) : ¬ Circular (answer .unguarded budget scope schema value path) := by
  induction budget generalizing scope schema value path with
  | zero =>
    rintro ⟨_, _, h⟩
    cases h
  | succ budget ih =>
    rw [answer]
    cases Options.exceeds path.length scope.options.maxDepth with
    | none =>
      rintro ⟨_, _, h⟩
      cases h
    | some tooDeep =>
      cases tooDeep with
      | true =>
        rintro ⟨_, _, h⟩
        cases h
      | false => exact answer_unguarded_not_circular ih node_every_plain _

end Check

theorem validateWith_unguarded_not_circular (steps : Options → Nat) (schema value : Json)
    (given : Given) (heard : List Notice) :
    ¬ Circular ((validateWith .unguarded steps schema value given).on heard).1 := by
  rintro ⟨references, context, h⟩
  rcases validateWith_fst Guard.unguarded_ignoresHook steps schema value given heard with
    hsame | ⟨message, hstop⟩
  · rw [hsame, answerWith] at h
    rcases hopening : opening? schema given with f | _ | opened
    · rw [hopening] at h
      cases h
      exact opening?_error hopening trivial
    · rw [hopening] at h
      cases h
    · rw [hopening] at h
      exact Check.unguarded_not_circular _ _ _ _ _ ⟨references, context, h⟩
  · rw [hstop] at h
    cases h

/-! How validations start. -/

theorem Members.declareTable_mapSchemas (f g : Json → Json) (members : Members) :
    (members.mapSchemas f g).declareTable = members.declareTable := by
  unfold declareTable
  rw [lookup_mapSchemas]
  cases members.lookup "definitions" with
  | none => rfl
  | some table => cases table <;> rfl

/-- A schema with its parts mapped starts as before, with the definitions that it has then. -/
theorem opening?_mapSchemas (f g : Json → Json) (members : Members) (given : Given) :
    opening? (.obj (members.mapSchemas f g)) given = opening? (.obj members) given ∧
        (∀ opened, opening? (.obj members) given ≠ .ok (some opened)) ∨
      ∃ options, given.options = .ok options ∧
        opening? (.obj members) given = .ok (some (options.withDefinitions
          (Check.declared (.document .schema (.obj members))))) ∧
        opening? (.obj (members.mapSchemas f g)) given = .ok (some (options.withDefinitions
          (Check.declared (.document .schema (.obj (members.mapSchemas f g)))))) := by
  cases hoptions : given.options with
  | error fault =>
    left
    rw [opening?_of_options_error hoptions, opening?_of_options_error hoptions]
    exact ⟨rfl, fun _ h => by cases h⟩
  | ok options =>
    cases members with
    | nil =>
      left
      refine ⟨rfl, fun opened h => ?_⟩
      rw [opening?_nil hoptions] at h
      cases h
    | cons member rest =>
      have hnonempty : Members.mapSchemas f g (member :: rest) ≠ [] := List.cons_ne_nil _ _
      rw [opening?_of_ne_nil hoptions (List.cons_ne_nil _ _), opening?_of_ne_nil hoptions hnonempty,
        Members.declareTable_mapSchemas]
      cases Members.declareTable (member :: rest) with
      | false => exact .inl ⟨rfl, fun _ h => by cases h⟩
      | true => exact .inr ⟨options, rfl, rfl, rfl⟩

/-- What the references of a schema lead to under the options of a call: to a definition of the
options or of the schema, or to a place in the schema. -/
def Given.target? (given : Given) (schema : Json) (name : String) : Option Json :=
  match given.options with
  | .ok options =>
    let root := Node.document .schema schema
    match resolve? (.str name) (options.definitions.extend (Check.declared root)) root with
    | .ok (some node) => some node.json
    | _ => none
  | .error _ => none

theorem Given.resolves_target? {given : Given} {options : Options}
    (hoptions : given.options = .ok options) (schema : Json) :
    Resolves (options.definitions.extend (Check.declared (.document .schema schema)))
      (.document .schema schema) (given.target? schema) := by
  intro name found hfound
  unfold target? at hfound
  rw [hoptions] at hfound
  dsimp only at hfound
  split at hfound
  · rename_i node hnode
    exact ⟨node, hnode, Option.some.inj hfound⟩
  · cases hfound

/-- From the start the runs of a schema and of what it is expanded to are in step. -/
theorem Check.start_expanded {guard' : Guard} (lenient' : guard'.Lenient) {schema schema' : Json}
    {given : Given} {options : Options} (hoptions : given.options = .ok options)
    (expands : schema.Expands (given.target? schema) (given.target? schema') true [] schema')
    (inlines : options.Inlines (given.target? schema) (given.target? schema'))
    {budget budget' : Nat} (le : budget ≤ budget') (value : Json) :
    Parallels .exceptTypes
      (descend .chain budget (.start (options.withDefinitions (declared (.document .schema schema)))
        (.document .schema schema)) (.document .schema schema) value [])
      (descend guard' budget' (.start (options.withDefinitions
        (declared (.document .schema schema'))) (.document .schema schema'))
        (.document .schema schema') value []) := by
  have hnothing : ∀ (opened : Options) (root : Node), (Scope.start opened root).Followed [] [] := by
    intro opened root link hlink
    cases hlink
  refine descend_expanded Guard.chain_lenient lenient' inlines (given.resolves_target? hoptions schema)
    (given.resolves_target? hoptions schema') budget budget' le ?_ ?_ ?_ expands value
  · exact ⟨rfl, rfl, rfl, rfl, rfl, hnothing _ _, hnothing _ _⟩
  · exact Scope.withDefinitions_of_not_adds (Definitions.not_adds_extend _ _)
  · exact Scope.withDefinitions_of_not_adds (Definitions.not_adds_extend _ _)

/-- What a schema is expanded to is itself, if it is none, or a schema with its parts mapped, or
has come in the place of a reference. -/
theorem Json.Expands.cases_of_root {target target' : String → Option Json} {declares : Bool}
    {seen : List String} {json json' : Json} (h : json.Expands target target' declares seen json') :
    json.isObject = false ∧ json' = json ∨
      (∃ members f g, json = .obj members ∧ json' = .obj (Members.mapSchemas f g members)) ∨
      ∃ members members', json = .obj members ∧ (governingReference? members).isSome ∧
        json' = .obj members' ∧ members'.lookup "definitions" = none := by
  have hobject := h.isObject_eq
  cases h with
  | atom atom => exact .inl ⟨atom, rfl⟩
  | @follow _ _ members name found _ plain governs unseen hfound like hexpands =>
    obtain ⟨members', rfl⟩ := eq_obj_of_isObject hobject
    exact .inr (.inr ⟨members, members', rfl, by rw [governs]; rfl, rfl, hexpands.no_definitions.2⟩)
  | share f g => exact .inr (.inl ⟨_, f, g, rfl, rfl⟩)
  | keep f g => exact .inr (.inl ⟨_, f, g, rfl, rfl⟩)

theorem View.exceptTypes_self (notices : List Notice) :
    List.Forall₂ View.exceptTypes.notices notices notices :=
  List.forall₂_same.mpr fun notice _ => ⟨.same notice.violation, rfl, rfl⟩

/-- Where nothing is checked, runs that start alike end alike. -/
theorem ends_of_opening?_eq {guard' : Guard} {steps : Options → Nat} {schema schema' value : Json}
    {given : Given} (same : opening? schema' given = opening? schema given)
    (unopened : ∀ opened, opening? schema given ≠ .ok (some opened)) (heard : List Notice) :
    View.exceptTypes.Ends ((validate schema value given).on heard)
      ((validateWith guard' steps schema' value given).on heard) := by
  unfold validate validateWith
  rw [same]
  rcases hopening : opening? schema given with f | _ | opened
  · exact ⟨.failed f, View.exceptTypes_self heard⟩
  · exact ⟨.found .nil, View.exceptTypes_self heard⟩
  · exact absurd hopening (unopened opened)

theorem ends_of_options_error {guard' : Guard} {steps : Options → Nat} {given : Given} {f : Fault}
    (hoptions : given.options = .error f) (members members' : Members) (value : Json)
    (heard : List Notice) :
    View.exceptTypes.Ends ((validate (.obj members) value given).on heard)
      ((validateWith guard' steps (.obj members') value given).on heard) := by
  have hopening := opening?_of_options_error hoptions
  refine ends_of_opening?_eq ((hopening members').trans (hopening members).symm) ?_ heard
  rw [hopening]
  rintro _ ⟨⟩

theorem opening?_ne_some_of_atom {schema : Json} (atom : schema.isObject = false) (given : Given)
    (opened : Options) : opening? schema given ≠ .ok (some opened) := by
  intro h
  cases schema with
  | obj members => cases atom
  | _ => cases h

/-- Nothing is checked against the empty schema, which is what the run would come to as well,
unless values are not allowed to be nested at all. -/
theorem validateWith_eq_descend {guard : Guard} {steps : Options → Nat} {members : Members}
    {given : Given} {options opened : Options} {root : Node} (hoptions : given.options = .ok options)
    (hroot : root = .document .schema (.obj members))
    (hopened : opened = options.withDefinitions (Check.declared root))
    (usable : members.declareTable)
    (shallow : members = [] → Options.exceeds 0 options.maxDepth = some false)
    (positive : 0 < steps opened) (value : Json) :
    validateWith guard steps (.obj members) value given =
      Check.descend guard (steps opened) (.start opened root) root value [] := by
  subst hroot
  cases members with
  | nil =>
    have hopening := opening?_nil hoptions
    let scope := Scope.start opened (.document .schema (.obj []))
    have hshallow : Options.exceeds ([] : Path).length scope.options.maxDepth = some false := by
      change Options.exceeds 0 opened.maxDepth = _
      rw [hopened]
      exact shallow rfl
    obtain ⟨more, hmore⟩ := Nat.exists_eq_succ_of_ne_zero (Nat.ne_of_gt positive)
    rw [validateWith, hopening, hmore, Check.descend, hshallow]
    rfl
  | cons member rest =>
    have hopening := opening?_of_ne_nil hoptions (List.cons_ne_nil member rest)
    rw [usable, if_pos rfl, ← hopened] at hopening
    rw [validateWith, hopening]
    rfl

/-- A validation ends like a run of what the schema is expanded to under a lenient guard. -/
theorem validateWith_expanded {schema schema' : Json} {given : Given}
    (expands : schema.Expands (given.target? schema) (given.target? schema') true [] schema')
    (inlines : ∀ options, given.options = .ok options →
      options.Inlines (given.target? schema) (given.target? schema'))
    (starts : (governingReference? schema.entries).isSome → schema.entries.declareTable ∧
      (schema' = .obj [] → ∀ options, given.options = .ok options →
        Options.exceeds 0 options.maxDepth = some false))
    (value : Json) {guard' : Guard} (lenient' : guard'.Lenient) {steps : Options → Nat}
    (le : ∀ options, given.options = .ok options → ∀ opened', enough schema value
      (options.withDefinitions (Check.declared (.document .schema schema))) ≤ steps opened')
    (heard : List Notice) :
    View.exceptTypes.Ends ((validate schema value given).on heard)
      ((validateWith guard' steps schema' value given).on heard) := by
  rcases expands.cases_of_root with ⟨atom, rfl⟩ | ⟨members, f, g, rfl, rfl⟩ |
    ⟨members, members', rfl, governed, rfl, hnone⟩
  · exact ends_of_opening?_eq rfl (opening?_ne_some_of_atom atom given) heard
  · rcases opening?_mapSchemas f g members given with ⟨same, unopened⟩ |
      ⟨options, hoptions, opening, opening'⟩
    · exact ends_of_opening?_eq same unopened heard
    · rw [validateWith, opening']
      exact validate_ends_like opening (Check.start_expanded lenient' hoptions expands
        (inlines options hoptions) (le options hoptions _) value) (View.exceptTypes_self heard)
  · cases hoptions : given.options with
    | error fault => exact ends_of_options_error hoptions members members' value heard
    | ok options =>
      obtain ⟨usable, shallow⟩ := starts governed
      have hnonempty : members ≠ [] := by
        rintro rfl
        cases governed
      have hopening := opening?_of_ne_nil hoptions hnonempty
      have husable : Members.declareTable members = true := usable
      rw [husable, if_pos rfl] at hopening
      have husable' : Members.declareTable members' = true := by
        unfold Members.declareTable
        rw [hnone]
      have hle := le options hoptions
      rw [validateWith_eq_descend hoptions rfl rfl husable'
        (fun hnil => shallow (congrArg Json.obj hnil) options hoptions)
        (Nat.lt_of_lt_of_le (enough_pos _ _ _) (hle _))]
      exact validate_ends_like hopening (Check.start_expanded lenient' hoptions expands
        (inlines options hoptions) (hle _) value) (View.exceptTypes_self heard)

/-- Options that hold definitions, and a reference to one of them. -/
def Given.referring : Given :=
  .settings (Options.settingsOf (.document .options (.obj [
    ("definitions", .obj [("U", .obj [("type", .str "null")])]),
    ("additionalProperties", .obj [("$ref", .str "U")])])))

end JsonSchema
