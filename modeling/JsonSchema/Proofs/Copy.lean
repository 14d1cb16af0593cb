import JsonSchema.Proofs.Expansion
import JsonSchema.Proofs.Lockstep
import JsonSchema.Proofs.Termination

/-! Checks against a node and against a copy of it. What a check comes to does not depend on the
documents that nodes stand in, as long as two of them are the same exactly if their copies are. -/
namespace JsonSchema

namespace Node

/-- Pairs of a node and a copy of it. With them all that is below is paired, and what stands
nowhere is its own copy. -/
structure Copying (copies : Node → Node → Prop) : Prop where
  json {node copy : Node} : copies node copy → copy.json = node.json
  below {node copy : Node} (step : Step) (json : Json) : copies node copy →
    copies (node.below step json) (copy.below step json)
  isSame {a a' b b' : Node} : copies a a' → copies b b' → a'.isSame b' = a.isSame b
  made (json : Json) : copies ⟨json, none⟩ ⟨json, none⟩

theorem copying_eq : Copying Eq where
  json h := by rw [h]
  below step json h := by rw [h]
  isSame ha hb := by rw [ha, hb]
  made _ := rfl

/-- What stands at one place is copied to another, and what stands in other documents stays. -/
inductive CopiedTo (here there : Address) : Node → Node → Prop
  | stays {node : Node} : (∀ address, node.address = some address →
      address.origin ≠ here.origin ∧ address.origin ≠ there.origin) → CopiedTo here there node node
  | moves (json : Json) (inner : List Step) :
      CopiedTo here there ⟨json, some ⟨here.origin, inner ++ here.steps⟩⟩
        ⟨json, some ⟨there.origin, inner ++ there.steps⟩⟩

theorem isSame_congr {a a' b b' : Node} (ha : a'.json = a.json) (hb : b'.json = b.json)
    (hsome : a'.address.isSome = a.address.isSome)
    (haddress : a'.address = b'.address ↔ a.address = b.address) : a'.isSame b' = a.isSame b := by
  have hbeq : (a'.address == b'.address) = (a.address == b.address) := by
    rw [Bool.eq_iff_iff, beq_iff_eq, beq_iff_eq, haddress]
  rw [isSame, isSame, ha, hb, hsome, hbeq]

theorem copying_copiedTo (here there : Address) : Copying (CopiedTo here there) where
  json h := by cases h <;> rfl
  below step json h := by
    cases h with
    | @stays node other =>
      refine .stays fun address haddress => ?_
      obtain ⟨own, hown, rfl⟩ := Option.map_eq_some_iff.mp haddress
      exact other own hown
    | moves _ inner => exact .moves json (step :: inner)
  isSame := by
    intro a a' b b' ha hb
    cases ha with
    | stays other =>
      cases hb with
      | stays _ => rfl
      | moves json inner =>
        refine isSame_congr rfl rfl rfl ⟨fun heq => ?_, fun heq => ?_⟩
        · exact absurd rfl (other _ heq).2
        · exact absurd rfl (other _ heq).1
    | moves json inner =>
      cases hb with
      | stays other =>
        refine isSame_congr rfl rfl rfl ⟨fun heq => ?_, fun heq => ?_⟩
        · exact absurd rfl (other _ heq.symm).2
        · exact absurd rfl (other _ heq.symm).1
      | moves json' inner' =>
        refine isSame_congr rfl rfl rfl ?_
        simp only [Option.some.injEq, Address.mk.injEq, true_and, List.append_cancel_right_eq]
  made json := .stays fun _ haddress => nomatch haddress

namespace Copying

variable {copies : Node → Node → Prop} (copying : Copying copies) {node copy : Node}
  (h : copies node copy)
include copying h

theorem items : List.Forall₂ copies node.items copy.items :=
  items_pairs <| by
    rw [copying.json h, List.forall₂_same]
    exact fun json _ step => copying.below step json h

theorem members : List.Forall₂ (Paired copies) node.members copy.members :=
  members_pairs <| by
    rw [copying.json h, List.forall₂_same]
    exact fun _ _ => ⟨rfl, fun step => copying.below step _ h⟩

theorem member? (name : String) : Option.Rel copies (node.member? name) (copy.member? name) := by
  rw [← lookup_members, ← lookup_members]
  exact Paired.lookup (copying.members h) name

theorem member?_eq_none {name : String} (hnone : node.member? name = none) :
    copy.member? name = none := by
  have hmember := copying.member? h name
  rw [hnone] at hmember
  generalize copy.member? name = found at hmember
  cases hmember
  rfl

theorem akin : node.Akin copy :=
  have hjson := copying.json h
  ⟨by rw [hjson], fun _ => hjson⟩

theorem pairsEither : node.PairsEither copies copy := by
  have hjson := copying.json h
  cases harray : node.json.isArray with
  | true => exact .inl ⟨harray, hjson ▸ harray, copying.items h⟩
  | false => exact .inr ⟨harray, hjson ▸ harray, h⟩

/-- The values of a keyword correspond if one is a copy of the other. -/
theorem pairs (position : Position) : position.Pairs copies node copy := by
  have hjson := copying.json h
  cases position with
  | data => exact hjson
  | table => exact ⟨by rw [hjson], copying.members h⟩
  | list =>
    cases harray : node.json.isArray with
    | true => exact .inl ⟨harray, hjson ▸ harray, copying.items h⟩
    | false => exact .inr ⟨harray, hjson⟩
  | either => exact copying.pairsEither h
  | additional =>
    cases htable : isTable node.json with
    | true => exact .inl ⟨htable, hjson ▸ htable, copying.members h⟩
    | false => exact .inr ⟨htable, hjson ▸ htable, h⟩
  | dependencies =>
    exact (copying.members h).imp fun _ _ hentry => ⟨hentry.1, copying.pairsEither hentry.2⟩

theorem keywords (keyword : String) : Option.Rel ((Position.of keyword).Pairs copies)
    (node.member? keyword) (copy.member? keyword) := by
  have hmember := copying.member? h keyword
  generalize node.member? keyword = found at hmember
  generalize copy.member? keyword = found' at hmember
  cases hmember with
  | none => exact .none
  | some hvalue => exact .some (copying.pairs hvalue _)

theorem declared : List.Forall₂ (Paired copies) (Check.declared node) (Check.declared copy) := by
  have hdefinitions := copying.member? h "definitions"
  unfold Check.declared
  generalize node.member? "definitions" = found at hdefinitions
  generalize copy.member? "definitions" = found' at hdefinitions
  cases hdefinitions with
  | none => exact .nil
  | some htable => exact copying.members htable

end Copying

end Node

/-! Pointers lead from a node and from its copy to a node and its copy. -/

/-- Steps that lead to paired nodes, or nowhere for the same reason. -/
inductive Pointer.Step.Paired (nodes : Node → Node → Prop) : Step → Step → Prop
  | found {node node' : Node} : nodes node node' → Paired nodes (.found node) (.found node')
  | last {node node' : Node} : nodes node node' → Paired nodes (.last node) (.last node')
  | missing : Paired nodes .missing .missing
  | unread (flaw : Text.Integer.Flaw) : Paired nodes (.unread flaw) (.unread flaw)

/-- What is looked up is paired, or the lookup fails for the same reason. -/
inductive FoundAlike (nodes : Node → Node → Prop) :
    Except BadIndex (Option Node) → Except BadIndex (Option Node) → Prop
  | found {found found' : Option Node} : Option.Rel nodes found found' →
      FoundAlike nodes (.ok found) (.ok found')
  | bad (index : BadIndex) : FoundAlike nodes (.error index) (.error index)

namespace Node.Copying

variable {copies : Node → Node → Prop} (copying : Copying copies) {node copy : Node}
  (h : copies node copy)
include copying

include h in
theorem step (token : String) :
    Pointer.Step.Paired copies (Pointer.step node token) (Pointer.step copy token) := by
  have hmember := copying.member? h token
  unfold Pointer.step
  rw [copying.json h]
  cases node.json with
  | obj _ =>
    dsimp only
    generalize node.member? token = found at hmember
    generalize copy.member? token = found' at hmember
    cases hmember with
    | none => exact .missing
    | some hchild => exact .found hchild
  | arr items =>
    dsimp only
    rcases Pointer.place token with _ | i | _ | flaw
    · exact .last (copying.made _)
    · dsimp only
      cases items[i]? with
      | none => exact .missing
      | some item => exact .found (copying.below _ item h)
    · exact .missing
    · exact .unread flaw
  | str s =>
    dsimp only
    rcases Pointer.place token with _ | i | _ | flaw
    · exact .last (copying.made _)
    · dsimp only
      cases s.toList[i]? with
      | none => exact .missing
      | some c => exact .found (copying.made _)
    · exact .missing
    · exact .unread flaw
  | _ => exact .missing

include h in
/-- By induction on the tokens. -/
theorem walk? (tokens : List String) :
    FoundAlike copies (node.walk? tokens) (copy.walk? tokens) := by
  induction tokens generalizing node copy with
  | nil => exact .found (.some h)
  | cons token rest ih =>
    have hstep := copying.step h token
    unfold Node.walk?
    generalize Pointer.step node token = next at hstep
    generalize Pointer.step copy token = next' at hstep
    cases hstep with
    | found hchild => exact ih hchild
    | last hchild =>
      dsimp only
      split
      · exact .found (.some hchild)
      · exact .found .none
    | missing => exact .found .none
    | unread flaw => exact .bad _

/-- A reference is looked up alike in two tables, and in two roots. -/
theorem lookUp? {table table' : Definitions} (htable : List.Forall₂ (Paired copies) table table')
    {root root' : Node} (hroot : copies root root') (ref : Json) :
    FoundAlike copies (lookUp? ref table root) (lookUp? ref table' root') := by
  have hlookup := Paired.lookup htable
  cases ref with
  | str name =>
    unfold JsonSchema.lookUp?
    dsimp only
    have hname := hlookup name
    generalize table.lookup name = found at hname
    generalize table'.lookup name = found' at hname
    cases hname with
    | some hnode => exact .found (.some hnode)
    | none =>
      split
      case h_1 hnone => cases hnone
      case h_2 =>
        split
        case h_1 => exact .found .none
        case h_2 tokens _ =>
          cases Pointer.definitionName? tokens with
          | none => exact copying.walk? hroot tokens
          | some spelled =>
            have hspelled := hlookup spelled
            rw [Option.bind_some, Option.bind_some]
            generalize table.lookup spelled = found at hspelled
            generalize table'.lookup spelled = found' at hspelled
            cases hspelled with
            | some hnode => exact .found (.some hnode)
            | none => exact copying.walk? hroot tokens
      case h_3 => exact .found .none
  | _ => exact .found .none

theorem resolve? {table table' : Definitions} (htable : List.Forall₂ (Paired copies) table table')
    {root root' : Node} (hroot : copies root root') (ref : Json) :
    FoundAlike copies (resolve? ref table root) (resolve? ref table' root') := by
  have hfound := copying.lookUp? htable hroot ref
  unfold JsonSchema.resolve?
  generalize JsonSchema.lookUp? ref table root = found at hfound
  generalize JsonSchema.lookUp? ref table' root' = found' at hfound
  cases hfound with
  | bad index => exact .bad index
  | found hrel =>
    refine .found ?_
    cases hrel with
    | none => exact .none
    | some hnode =>
      dsimp only
      rw [Option.filter_some, Option.filter_some, (copying.akin hnode).isNull_eq]
      split
      · exact .some hnode
      · exact .none

end Node.Copying

/-- Notices look alike that differ in nothing but the schema. -/
def View.exceptSchemas : View where
  notices notice notice' := { notice' with schema := notice.schema } = notice
  violations violation violation' := violation = violation'
  of_notices h := (congrArg Notice.violation h).symm

/-- Runs with nodes and with copies of them. -/
def Pairing.copied (copies : Node → Node → Prop) : Pairing :=
  .everywhere .exceptSchemas copies fun value value' => value' = value

/-- Scopes of which the second has copies of the schemas of the first, and where whoever listens
does not look at schemas. -/
structure Scope.Copied (copies : Node → Node → Prop) (scope scope' : Scope) : Prop
    extends Scope.Paired copies scope scope' where
  root : copies scope.root scope'.root
  additionalItems : copies scope.options.additionalItems scope.options.additionalItems
  additionalProperties :
    copies scope.options.additionalProperties scope.options.additionalProperties
  bounds : View.exceptSchemas.Bounds scope.options.hook

theorem Node.Copying.requiredNames {copies : Node → Node → Prop} (copying : Copying copies)
    {node copy : Node} (h : copies node copy) :
    Check.requiredNames copy = Check.requiredNames node := by
  refine Check.requiredNames_congr (copying.keywords h "required") (copying.keywords h "properties")
    fun part part' hpart => ?_
  rw [value, value, copying.json hpart]

namespace Check

variable {copies : Node → Node → Prop} {scope scope' : Scope} {schema schema' : Node} {path : Path}

/-- Where the constraints of a node are copies of those of another one, the checks of a value
against a type go together. -/
theorem constrained_copied (copying : Node.Copying copies) (hscope : scope.Copied copies scope')
    (keywords : ∀ keyword, isConstraint keyword → Option.Rel ((Position.of keyword).Pairs copies)
      (schema.member? keyword) (schema'.member? keyword))
    (required : requiredNames schema' = requiredNames schema) :
    Constrained (.copied copies) scope.options scope'.options path schema schema' := by
  constructor
  case keywords => exact keywords
  case requiredNames => exact required
  case deeper => exact fun _ => id
  case akin => exact fun hnode => copying.akin hnode
  case resembles =>
    rintro _ _ rfl
    exact Json.resembles_self _ _
  case whole => exact fun _ _ _ => id
  case needed =>
    intro members members' name hvalue _ _
    cases hvalue
    rfl
  case seen =>
    rintro _ _ rfl _
    rfl
  case types =>
    rintro named named' value _ _ _ rfl hnodes
    have hjson : named'.items.map Node.json = named.items.map Node.json := by
      rw [← List.forall₂_eq_eq_eq, List.forall₂_map_left_iff, List.forall₂_map_right_iff]
      exact hnodes.flip.imp fun _ _ h => copying.json h
    rw [hjson]
    rfl
  case omits =>
    rw [hscope.options]
    rfl
  case validateFormat => rw [hscope.options]
  case additionalItems =>
    intro step
    rw [hscope.options]
    exact copying.pairsEither hscope.additionalItems
  case additionalProperties =>
    intro step
    rw [hscope.options]
    exact copying.pairs hscope.additionalProperties .additional

theorem reference_copied (copying : Node.Copying copies) (hscope : scope.Copied copies scope')
    (ref value : Json) :
    Plan.Parallels (.copied copies) (reference scope.options scope.root schema ref value path)
      (reference scope'.options scope'.root schema' ref value path) := by
  have hfound := copying.resolve? hscope.definitions hscope.root ref
  have homitRefs : scope'.options.omitRefs = scope.options.omitRefs := by rw [hscope.options]
  unfold reference
  rw [homitRefs]
  generalize resolve? ref scope.options.definitions scope.root = found at hfound
  generalize resolve? ref scope'.options.definitions scope'.root = found' at hfound
  split
  · exact .clean
  · cases hfound with
    | bad index => exact .fault _
    | found hrel =>
      cases hrel with
      | none => exact .report rfl
      | some htarget => exact .follow ⟨rfl, htarget, rfl⟩ rfl

theorem node_copied (copying : Node.Copying copies) (hscope : scope.Copied copies scope')
    (hschema : copies schema schema') (value : Json) :
    Plan.Parallels (.copied copies) (node scope.options scope.root schema value path)
      (node scope'.options scope'.root schema' value path) := by
  have hjson := copying.json hschema
  cases hobject : schema.json.isObject with
  | false => exact atom_parallels (fun _ => rfl) hobject hjson
  | true =>
    have hkeywords := copying.keywords hschema
    have hcorresponds : Corresponds (.copied copies) scope.options scope'.options path schema
        schema' :=
      ⟨constrained_copied copying hscope (fun keyword _ => hkeywords keyword)
        (copying.requiredNames hschema), hkeywords "type"⟩
    refine hcorresponds.node_parallels rfl hobject (hjson ▸ hobject) ?_
    intro _ ref ref' href href'
    have hsame := hkeywords "$ref"
    rw [href, href'] at hsame
    cases hsame with
    | some hjson =>
      rw [show ref'.json = ref.json from hjson]
      exact reference_copied copying hscope ref.json value

/-- Runs with nodes and with copies of them are in step. -/
theorem lockstep_copied (copying : Node.Copying copies) :
    Lockstep (.copied copies) (Scope.Copied copies) fun _ _ _ => True := by
  constructor
  case hook => exact fun hscope => hscope.hook_eq
  case bounds => exact fun hscope => hscope.bounds
  case maxDepth => exact fun hscope => hscope.maxDepth_eq
  case trials => exact fun hscope => hscope.trials
  case trial => exact fun hscope => { hscope with toPaired := hscope.toPaired.trial }
  case target => exact fun hlink => ⟨hlink.path, hlink.target⟩
  case follow =>
    intro scope scope' link link' hscope hlink
    rcases hscope.toPaired.follow copying.isSame hlink with
      hrefused | ⟨next, next', hfollow, hfollow', hnext⟩
    · exact .inl hrefused
    · obtain ⟨_, rfl⟩ := Scope.follow_ok hfollow
      obtain ⟨_, rfl⟩ := Scope.follow_ok hfollow'
      exact .inr ⟨_, _, hfollow, hfollow', { hscope with toPaired := hnext }⟩
  case declare =>
    exact fun hscope hschema =>
      { hscope with toPaired := hscope.toPaired.declare (copying.declared hschema) }
  case plans =>
    rintro scope scope' schema schema' _ value path hscope hschema - rfl
    have hinner : (scope.withDefinitions (declared schema)).Copied copies
        (scope'.withDefinitions (declared schema')) :=
      { hscope with toPaired := hscope.toPaired.declare (copying.declared hschema) }
    exact (node_copied copying hinner hschema value).among fun _ _ => trivial

end Check

/-- All the nodes that a scope knows by themselves, those that are being followed among them. -/
def Scope.known (scope : Scope) : List Node :=
  scope.tops ++ scope.chain.map Link.target

/-- A scope has its own copies if each of the nodes that it knows is its own copy. -/
theorem Scope.copied_self {copies : Node → Node → Prop} {scope : Scope}
    (own : ∀ node ∈ scope.known, copies node node)
    (bounds : View.exceptSchemas.Bounds scope.options.hook) : scope.Copied copies scope := by
  have htop : ∀ node ∈ scope.tops, copies node node :=
    fun node h => own node (List.mem_append_left _ h)
  simp only [tops, List.forall_mem_cons, List.forall_mem_map] at htop
  obtain ⟨hroot, hitems, hproperties, hdefinitions⟩ := htop
  refine ⟨⟨?_, rfl, rfl, ?_⟩, hroot, hitems, hproperties, bounds⟩
  · exact List.forall₂_same.mpr fun entry hentry => ⟨rfl, hdefinitions entry hentry⟩
  · refine List.forall₂_same.mpr fun link hlink => ⟨rfl, own _ ?_, rfl⟩
    exact List.mem_append_right _ (List.mem_map_of_mem hlink)

section

variable {copies : Node → Node → Prop} {scope scope' : Scope} {budget budget' : Nat}

/-- The check of a copy comes to the same, with no fewer steps. -/
theorem Check.answer_copied (copying : Node.Copying copies) (le : budget ≤ budget')
    (hscope : (scope.listening 0 none).Copied copies (scope'.listening 0 none))
    {schema schema' : Node} (hschema : copies schema schema') {value : Json} {path : Path}
    (ends : answer .chain budget scope schema value path ≠ .error .exhausted) :
    answer .chain budget' scope' schema' value path =
      answer .chain budget scope schema value path := by
  have hstep : Parallels .exceptSchemas
      (descend .chain budget (scope.listening 0 none) schema value path)
      (descend .chain budget' (scope'.listening 0 none) schema' value path) :=
    (lockstep_copied copying).descend le hscope hschema trivial rfl
  have hends := hstep [] [] .nil
  rw [on_descend_quiet Guard.chain_ignoresHook, on_descend_quiet Guard.chain_ignoresHook] at hends
  exact (hends (avoids_exhausted ends)).answer.eq.symm

/-- Plans that go together with copies come to the same, with no fewer steps. -/
theorem Plan.answer_copied (copying : Node.Copying copies) (le : budget ≤ budget')
    (hscope : (scope.listening 0 none).Copied copies (scope'.listening 0 none)) {plan plan' : Plan}
    (plans : Plan.Parallels (.copied copies) plan plan')
    (ends : plan.answer .chain (Check.answer .chain budget) scope ≠ .error .exhausted) :
    plan'.answer .chain (Check.answer .chain budget') scope' =
      plan.answer .chain (Check.answer .chain budget) scope := by
  have hstep : Check.Parallels .exceptSchemas
      (plan.run .chain (Check.descend .chain budget) (scope.listening 0 none))
      (plan'.run .chain (Check.descend .chain budget') (scope'.listening 0 none)) :=
    (Check.lockstep_copied copying).run le hscope (plans.among fun _ _ => trivial)
  have hends := hstep [] [] .nil
  rw [on_run_quiet Guard.chain_ignoresHook, on_run_quiet Guard.chain_ignoresHook] at hends
  exact (hends (avoids_exhausted ends)).answer.eq.symm

end

end JsonSchema
