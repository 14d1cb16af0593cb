import JsonSchema.Json.Proper
import JsonSchema.Proofs.Groupless
import JsonSchema.Proofs.Run

/-! Where the plan of a node leads: to nodes beneath it at the same place, to nodes at a part
of the value, and through its reference to what that resolves to. And how it can fail: only
through an expression or a pointer that goes too far. -/
namespace JsonSchema

/-- Every fault in a plan is of one kind, every node that it enters of another, and every link
that it follows of a third. -/
def Plan.Every (fails : Fault → Prop) (enters : Node → Json → Path → Prop)
    (follows : Link → Json → Prop) : Plan → Prop
  | .clean | .report _ _ _ _ => True
  | .fault f => fails f
  | .both first second => first.Every fails enters follows ∧ second.Every fails enters follows
  | .enter schema value path => enters schema value path
  | .follow link value => follows link value
  | .probe branch next =>
    branch.Every fails enters follows ∧ ∀ passes, (next passes).Every fails enters follows

namespace Plan

variable {fails : Fault → Prop} {enters : Node → Json → Path → Prop} {follows : Link → Json → Prop}

theorem Every.imp {fails' : Fault → Prop} {enters' : Node → Json → Path → Prop}
    {follows' : Link → Json → Prop} (hfail : ∀ f, fails f → fails' f)
    (henter : ∀ node value path, enters node value path → enters' node value path)
    (hfollow : ∀ link value, follows link value → follows' link value) {plan : Plan}
    (every : plan.Every fails enters follows) : plan.Every fails' enters' follows' := by
  induction plan with
  | clean | report => trivial
  | fault f => exact hfail f every
  | both first second ihFirst ihSecond => exact ⟨ihFirst every.1, ihSecond every.2⟩
  | enter schema value path => exact henter schema value path every
  | follow link value => exact hfollow link value every
  | probe branch next ihBranch ihNext =>
    exact ⟨ihBranch every.1, fun passes => ihNext passes (every.2 passes)⟩

theorem every_all {plans : List Plan} (each : ∀ plan ∈ plans, plan.Every fails enters follows) :
    (Plan.all plans).Every fails enters follows := by
  induction plans with
  | nil => trivial
  | cons plan rest ih =>
    rw [List.forall_mem_cons] at each
    exact ⟨each.1, ih each.2⟩

theorem every_firstClean {otherwise : Plan} {plans : List Plan}
    (last : otherwise.Every fails enters follows)
    (each : ∀ plan ∈ plans, plan.Every fails enters follows) :
    (Plan.firstClean otherwise plans).Every fails enters follows := by
  induction plans with
  | nil => exact last
  | cons plan rest ih =>
    rw [List.forall_mem_cons] at each
    refine ⟨each.1, fun passes => ?_⟩
    cases passes with
    | true => trivial
    | false => exact ih each.2

theorem every_countClean {next : Nat → Plan} {plans : List Plan}
    (last : ∀ count, (next count).Every fails enters follows)
    (each : ∀ plan ∈ plans, plan.Every fails enters follows) (count : Nat) :
    (Plan.countClean next count plans).Every fails enters follows := by
  induction plans generalizing count with
  | nil => exact last count
  | cons plan rest ih =>
    rw [List.forall_mem_cons] at each
    exact ⟨each.1, fun passes => ih each.2 _⟩

theorem every_settle {schema : Node} {value : Json} {path : Path} {verdicts : List Verdict}
    (plain : ∀ f, .error f ∈ verdicts → fails f) :
    (Plan.settle schema value path verdicts).Every fails enters follows := by
  apply every_all
  intro plan hplan
  obtain ⟨verdict, hverdict, rfl⟩ := List.mem_map.mp hplan
  rcases verdict with f | _ | finding
  · exact plain f hverdict
  · trivial
  · trivial

end Plan

/-- Inside one of several nodes. -/
def Node.Among (tops : List Node) (node : Node) : Prop :=
  ∃ top ∈ tops, top.Inside node

namespace Check

/-- What the plan of a node enters. -/
inductive Leads (options : Options) (schema : Node) (value : Json) (path : Path) :
    Node → Json → Path → Prop
  | here {node : Node} : schema.Beneath node → Leads options schema value path node value path
  | part {node : Node} {part : Json} (step : Step) :
      Node.Among [schema, options.additionalItems, options.additionalProperties] node →
      value.Part step part → Leads options schema value path node part (path ++ [step])

/-- The keywords that govern a node before its reference does. -/
def combinators : List String :=
  ["enum", "oneOf", "allOf", "anyOf"]

/-- The types that a value is checked as: those that a node names, unless a combinator or a
reference governs it. -/
inductive ChecksAs (schema : Node) : SchemaType → Prop
  | alone {named : Node} {type : SchemaType} :
      (∀ keyword ∈ "$ref" :: combinators, schema.member? keyword = none) →
      governingType? schema = some named → namedType? named.json = some type →
      ChecksAs schema type
  | among {named member : Node} {type : SchemaType} :
      (∀ keyword ∈ "$ref" :: combinators, schema.member? keyword = none) →
      governingType? schema = some named → member ∈ named.items →
      namedType? member.json = some type → ChecksAs schema type

/-- How the check of a value against a node fails: by a pointer that cannot be followed, by an
expression that is not read and yet not malformed, or by a search that does not end well. -/
inductive Fails (options : Options) (root schema : Node) : Json → Fault → Prop
  | reference {ref : Node} {bad : BadIndex} (value : Json) :
      (∀ keyword ∈ combinators, schema.member? keyword = none) →
      schema.member? "$ref" = some ref →
      resolve? ref.json options.definitions root = .error bad →
      Fails options root schema value (.index bad)
  | pattern {text s : String} {flaw : Pattern.Flaw} : ChecksAs schema .string →
      schema.value "pattern" = .str text →
      (Pattern.ofText? text).bind (·.foundIn s) = .error flaw → flaw ≠ .malformed →
      Fails options root schema (.str s) (.pattern flaw)
  | format {s : String} {flaw : Pattern.Flaw} : ChecksAs schema .string →
      options.validateFormat.isOn → formatNamed? (schema.value "format") = some .regex →
      Pattern.ofText? s = .error flaw → flaw ≠ .malformed →
      Fails options root schema (.str s) (.pattern flaw)
  | name {text : String} {node : Node} {members : Members} {flaw : Pattern.Flaw} :
      ChecksAs schema .object → (text, node) ∈ (patternProperties? schema).getD [] →
      Pattern.ofText? text = .error flaw → flaw ≠ .malformed →
      Fails options root schema (.obj members) (.pattern flaw)
  | search {text name : String} {node : Node} {pattern : Pattern} {members : Members} {own : Json}
      {flaw : Pattern.Flaw} : ChecksAs schema .object →
      (text, node) ∈ (patternProperties? schema).getD [] → Pattern.ofText? text = .ok pattern →
      (name, own) ∈ kept options members → (properties schema).lookup name = none →
      pattern.foundIn name = .error flaw → Fails options root schema (.obj members) (.pattern flaw)

theorem Fails.not_ofRun {options : Options} {root schema : Node} {value : Json} {f : Fault}
    (h : Fails options root schema value f) : ¬ f.OfRun := by
  cases h <;> exact id

/-- What the plan of a node follows: its reference, at the same place. -/
inductive Refers (options : Options) (root schema : Node) (value : Json) (path : Path) :
    Link → Json → Prop
  | ref {ref target : Node} : schema.Beneath ref →
      resolve? ref.json options.definitions root = .ok (some target) →
      Refers options root schema value path ⟨ref.json.display, target, path⟩ value

/-- A plan that leads nowhere else and fails in no other way. -/
abbrev KeepsTo (options : Options) (root schema : Node) (value : Json) (path : Path)
    (plan : Plan) : Prop :=
  plan.Every (Fails options root schema value) (Leads options schema value path)
    (Refers options root schema value path)

variable {options : Options} {root schema : Node} {value : Json} {path : Path}

theorem each_every {members : Node} (beneath : schema.Beneath members) :
    ∀ plan ∈ each members.items value path, KeepsTo options root schema value path plan := by
  intro plan hplan
  obtain ⟨node, hnode, rfl⟩ := List.mem_map.mp hplan
  exact .here (beneath.trans (Node.beneath_of_mem_items hnode).inside)

theorem reference_every {ref : Node} (href : schema.member? "$ref" = some ref)
    (first : ∀ keyword ∈ combinators, schema.member? keyword = none) :
    KeepsTo options root schema value path
      (reference options root schema ref.json value path) := by
  unfold reference
  split
  · trivial
  · cases hresolve : resolve? ref.json options.definitions root with
    | error bad => exact .reference value first href hresolve
    | ok found =>
      cases found with
      | none => trivial
      | some target => exact .ref (Node.beneath_of_member? href) hresolve

/-- Inside the schema itself, or inside what the options say in its place. -/
theorem among_schema {node : Node} (inside : schema.Inside node) :
    Node.Among [schema, options.additionalItems, options.additionalProperties] node :=
  ⟨schema, List.mem_cons_self, inside⟩

theorem among_member {keyword : String} {fallback member node : Node}
    (hmember : (schema.member? keyword).getD fallback = member)
    (hfallback : fallback ∈ [schema, options.additionalItems, options.additionalProperties])
    (inside : member.Inside node) :
    Node.Among [schema, options.additionalItems, options.additionalProperties] node := by
  cases h : schema.member? keyword with
  | none =>
    rw [h] at hmember
    cases hmember
    exact ⟨fallback, hfallback, inside⟩
  | some own =>
    rw [h] at hmember
    cases hmember
    exact among_schema ((Node.beneath_of_member? h).trans inside).inside

theorem additionalItem_every {additional : Node} {i : Nat} {item : Json} {step : Step}
    (among : ∀ node, additional.Inside node →
      Node.Among [schema, options.additionalItems, options.additionalProperties] node)
    (hpart : value.Part step item) :
    KeepsTo options root schema value path
      (additionalItem schema additional i item (path ++ [step])) := by
  unfold additionalItem
  cases additional.json with
  | null => trivial
  | bool b => cases b <;> trivial
  | arr _ =>
    refine Plan.every_firstClean (by trivial) fun plan hplan => ?_
    obtain ⟨node, hnode, rfl⟩ := List.mem_map.mp hplan
    exact .part step (among node (Node.beneath_of_mem_items hnode).inside) hpart
  | _ => exact .part step (among additional (.self additional)) hpart

/-- Elements, each by a plan that leads only to that element. -/
theorem indexed_every {elements : List Json} (plan : Nat → Json → Plan)
    (each : ∀ (i : Nat) item, (Json.arr elements).Part (.index i) item →
      KeepsTo options root schema (.arr elements) path (plan i item)) :
    KeepsTo options root schema (.arr elements) path
      (Plan.all ((indexed elements).map fun (i, item) => plan i item)) := by
  apply Plan.every_all
  intro one hone
  obtain ⟨⟨i, item⟩, hmem, rfl⟩ := List.mem_map.mp hone
  obtain ⟨⟨item', i'⟩, hzip, heq⟩ := List.mem_map.mp hmem
  cases heq
  exact each i item (.item (List.mem_zipIdx_iff_getElem?.mp hzip))

theorem items_every {elements : List Json} :
    KeepsTo options root schema (.arr elements) path (items options schema elements path) := by
  have hadditional (i : Nat) (item : Json) (hpart : (Json.arr elements).Part (.index i) item) :
      KeepsTo options root schema (.arr elements) path
        (additionalItem schema (additionalItems options schema) i item (path.index i)) :=
    additionalItem_every (fun _ => among_member rfl (by simp)) hpart
  unfold items
  cases hitems : schema.member? "items" with
  | none =>
    dsimp only
    split
    · exact indexed_every _ fun i item hpart => hadditional i item hpart
    · trivial
  | some node =>
    have hbeneath := Node.beneath_of_member? hitems
    dsimp only
    split
    · apply indexed_every
      intro i item hpart
      unfold tupleItem
      cases hnode : node.items[i]? with
      | none => exact hadditional i item hpart
      | some own =>
        have hown := Node.beneath_of_mem_items (List.mem_of_getElem? hnode)
        exact .part _ (among_schema (hbeneath.trans hown.inside).inside) hpart
    · apply indexed_every fun i item => .enter node item (path.index i)
      intro i item hpart
      exact .part _ (among_schema hbeneath.inside) hpart

theorem limitVerdicts_plain {least most : Kind} {count : Nat} {f : Fault} :
    .error f ∉ limitVerdicts schema least most count := by
  simp [limitVerdicts]

theorem array_every {elements : List Json} :
    KeepsTo options root schema (.arr elements) path
      (array options schema (.arr elements) elements path) := by
  refine ⟨Plan.every_settle fun f hf => ?_, items_every⟩
  rcases List.mem_append.mp hf with hlimit | hunique
  · exact absurd hlimit limitVerdicts_plain
  · simp at hunique

theorem beneath_of_mem_table {keyword name : String} {node : Node}
    (h : (name, node) ∈ ((schema.member? keyword).map Node.members).getD []) :
    schema.Beneath node := by
  cases hmember : schema.member? keyword with
  | none =>
    rw [hmember] at h
    cases h
  | some table =>
    rw [hmember] at h
    exact (Node.beneath_of_member? hmember).trans (Node.beneath_of_mem_members h).inside

theorem dependency_every {members : Members} {owner : String} {target : Node}
    (beneath : schema.Beneath target) :
    KeepsTo options root schema (.obj members) path
      (dependency schema members path owner target) := by
  unfold dependency
  cases target.json with
  | str name =>
    dsimp only
    split <;> trivial
  | obj _ => exact .here beneath
  | _ => trivial

theorem inside_of_mem_targets {declared target : Node} (h : target ∈ targets declared) :
    declared.Inside target := by
  unfold targets at h
  split at h
  · exact (Node.beneath_of_mem_items h).inside
  · rw [List.mem_singleton.mp h]
    exact .self declared

theorem dependencies_every {members : Members} :
    KeepsTo options root schema (.obj members) path
      (dependencies options schema members path) := by
  apply Plan.every_all
  intro plan hplan
  obtain ⟨⟨owner, declared⟩, hmem, rfl⟩ := List.mem_map.mp hplan
  have hdeclared := beneath_of_mem_table hmem
  dsimp only
  split
  · trivial
  · apply Plan.every_all
    intro one hone
    obtain ⟨target, htarget, rfl⟩ := List.mem_map.mp hone
    exact dependency_every (hdeclared.trans (inside_of_mem_targets htarget))

theorem additionalProperty_every {members : Members} {additional : Node} {name : String}
    {own : Json} {step : Step}
    (among : ∀ node, additional.Inside node →
      Node.Among [schema, options.additionalItems, options.additionalProperties] node)
    (hpart : value.Part step own) :
    KeepsTo options root schema value path
      (additionalProperty schema additional members name own (path ++ [step])) := by
  unfold additionalProperty
  cases additional.json with
  | null => trivial
  | bool b => cases b <;> trivial
  | _ =>
    dsimp only
    split
    · cases hmember : additional.member? name with
      | none => trivial
      | some node =>
        exact .part step (among node (Node.beneath_of_member? hmember).inside) hpart
    · exact .part step (among additional (.self additional)) hpart

theorem matching?_error {name : String} {patterns : List (Pattern × Node)} {f : Fault}
    (h : matching? name patterns = .error f) :
    ∃ pattern node flaw, (pattern, node) ∈ patterns ∧ pattern.foundIn name = .error flaw ∧
      f = .pattern flaw := by
  induction patterns with
  | nil => cases h
  | cons head rest ih =>
    obtain ⟨pattern, node⟩ := head
    rw [matching?] at h
    rcases hfound : pattern.foundIn name with flaw | _ | _
    · rw [hfound] at h
      cases h
      exact ⟨pattern, node, flaw, List.mem_cons_self, hfound, rfl⟩
    · rw [hfound] at h
      obtain ⟨other, own, flaw, hmem, hflaw, hf⟩ := ih h
      exact ⟨other, own, flaw, List.mem_cons_of_mem _ hmem, hflaw, hf⟩
    · rw [hfound] at h
      cases h

theorem mem_of_matching? {name : String} {patterns : List (Pattern × Node)} {node : Node}
    (h : matching? name patterns = .ok (some node)) : ∃ pattern, (pattern, node) ∈ patterns := by
  induction patterns with
  | nil => cases h
  | cons head rest ih =>
    obtain ⟨pattern, other⟩ := head
    rw [matching?] at h
    rcases hfound : pattern.foundIn name with flaw | _ | _
    · rw [hfound] at h
      cases h
    · rw [hfound] at h
      obtain ⟨found, hmem⟩ := ih h
      exact ⟨found, List.mem_cons_of_mem _ hmem⟩
    · rw [hfound] at h
      dsimp only at h
      split at h <;> cases h
      exact ⟨pattern, List.mem_cons_self⟩

/-- A pattern that names are searched for is written by one of those of the node. -/
theorem text_of_pattern {pattern : Pattern} {node : Node}
    (h : (pattern, node) ∈ ((patternProperties? schema).map compiled).getD []) :
    ∃ text, (text, node) ∈ (patternProperties? schema).getD [] ∧
      Pattern.ofText? text = .ok pattern := by
  have hcompiled : (pattern, node) ∈ compiled ((patternProperties? schema).getD []) := by
    cases hpatterns : patternProperties? schema with
    | none =>
      rw [hpatterns] at h
      cases h
    | some patterns =>
      rw [hpatterns] at h
      exact h
  obtain ⟨⟨text, own⟩, hmem, hown⟩ := List.mem_filterMap.mp hcompiled
  obtain ⟨found, hfound, heq⟩ := Option.map_eq_some_iff.mp hown
  cases heq
  cases hmeaning : Pattern.ofText? text with
  | error flaw =>
    rw [hmeaning] at hfound
    cases hfound
  | ok meaning =>
    rw [hmeaning] at hfound
    cases hfound
    exact ⟨text, hmem, hmeaning⟩

theorem beneath_of_pattern {pattern : Pattern} {node : Node}
    (h : (pattern, node) ∈ ((patternProperties? schema).map compiled).getD []) :
    schema.Beneath node := by
  obtain ⟨text, hmem, _⟩ := text_of_pattern h
  unfold patternProperties? at hmem
  cases hmember : schema.member? "patternProperties" with
  | none =>
    rw [hmember] at hmem
    cases hmem
  | some table =>
    simp only [hmember] at hmem
    split at hmem
    · exact (Node.beneath_of_member? hmember).trans (Node.beneath_of_mem_members hmem).inside
    · cases hmem

theorem property_every (checks : ChecksAs schema .object) {members : Members} {name : String}
    {own : Json} (hkept : (name, own) ∈ kept options members) :
    KeepsTo options root schema (.obj members) path
      (property options schema members ((patternProperties? schema).map compiled) path name
        own) := by
  have hpart : (Json.obj members).Part (.key name) own := .member (List.mem_of_mem_filter hkept)
  unfold property
  cases hown : (properties schema).lookup name with
  | some node =>
    have hbeneath := beneath_of_mem_table (Node.mem_of_lookup hown)
    exact .part _ (among_schema hbeneath.inside) hpart
  | none =>
    dsimp only
    rcases hfound : matching? name (((patternProperties? schema).map compiled).getD [])
      with f | _ | node
    · obtain ⟨pattern, node, flaw, hmem, hflaw, rfl⟩ := matching?_error hfound
      obtain ⟨text, htext, hmeaning⟩ := text_of_pattern hmem
      exact .search checks htext hmeaning hkept hown hflaw
    · cases hmember : schema.member? "additionalProperties" with
      | some additional =>
        apply additionalProperty_every _ hpart
        intro node hinside
        exact among_schema ((Node.beneath_of_member? hmember).trans hinside).inside
      | none =>
        dsimp only
        split
        · trivial
        · exact additionalProperty_every
            (fun node hinside => ⟨options.additionalProperties, by simp, hinside⟩) hpart
    · obtain ⟨pattern, hmem⟩ := mem_of_matching? hfound
      exact .part _ (among_schema (beneath_of_pattern hmem).inside) hpart

theorem patternName_every (checks : ChecksAs schema .object) {members : Members} {text : String}
    {node : Node} (hmem : (text, node) ∈ (patternProperties? schema).getD []) :
    KeepsTo options root schema (.obj members) path
      (patternName schema (.obj members) path text) := by
  unfold patternName
  split
  · trivial
  · trivial
  · rename_i flaw malformed hflaw
    exact .name checks hmem hflaw malformed

theorem object_every (checks : ChecksAs schema .object) {members : Members} :
    KeepsTo options root schema (.obj members) path (object options schema members path) := by
  refine ⟨Plan.every_settle fun f hf => ?_, dependencies_every, ?_, ?_, trivial⟩
  · rcases List.mem_append.mp hf with hlimit | hrequired
    · exact absurd hlimit limitVerdicts_plain
    · simp [required] at hrequired
  · apply Plan.every_all
    intro plan hplan
    obtain ⟨⟨text, node⟩, hmem, rfl⟩ := List.mem_map.mp hplan
    exact patternName_every checks hmem
  · apply Plan.every_all
    intro plan hplan
    obtain ⟨⟨name, own⟩, hmem, rfl⟩ := List.mem_map.mp hplan
    exact property_every checks hmem

theorem numberVerdicts_plain {f : Fault} : .error f ∉ numberVerdicts schema value := by
  simp [numberVerdicts]

theorem pattern_fails (checks : ChecksAs schema .string) {s : String} {f : Fault}
    (h : pattern schema s = .error f) : Fails options root schema (.str s) f := by
  unfold pattern at h
  cases hmember : schema.member? "pattern" with
  | none =>
    simp only [hmember] at h
    cases h
  | some own =>
    simp only [hmember] at h
    rcases hmatch : matchesPattern own.json s with fault | _ | _
    · rw [hmatch] at h
      cases h
      unfold matchesPattern at hmatch
      split at hmatch
      · rename_i text htext
        split at hmatch <;> cases hmatch
        rename_i flaw malformed hflaw
        refine .pattern checks ?_ hflaw malformed
        rw [Node.value_eq, hmember, Option.map_some, htext, Option.getD_some]
      · cases hmatch
    · rw [hmatch] at h
      cases h
    · rw [hmatch] at h
      cases h

theorem name_of_formatNamed? {json : Json} {format : Format}
    (h : formatNamed? json = some format) : ∃ name, Format.named? name = some format := by
  cases json with
  | str name => exact ⟨name, h⟩
  | _ => cases h

theorem format_fails (checks : ChecksAs schema .string) {s : String} {f : Fault}
    (h : format options schema s = .error f) : Fails options root schema (.str s) f := by
  unfold format at h
  split at h
  · cases h
  · rename_i named hmember
    split at h
    · cases h
    · rename_i hon
      split at h
      · cases h
      · rename_i format hformat
        split at h <;> cases h
        rename_i flaw hflaw
        obtain ⟨name, hname⟩ := name_of_formatNamed? hformat
        obtain ⟨rfl, hmeaning, malformed⟩ := Format.accepts_error hname hflaw
        refine .format checks (by simpa using hon) ?_ hmeaning malformed
        rwa [Node.value_eq, hmember]

theorem textVerdicts_fails (checks : ChecksAs schema .string) {s : String} {f : Fault}
    (h : .error f ∈ textVerdicts options schema s) : Fails options root schema (.str s) f := by
  rcases List.mem_append.mp h with htext | hlimit
  · rcases List.mem_cons.mp htext with hpattern | hformat
    · exact pattern_fails checks hpattern.symm
    · exact format_fails checks (List.mem_singleton.mp hformat).symm
  · exact absurd hlimit limitVerdicts_plain

theorem ofType_every {type : SchemaType} (checks : ChecksAs schema type) :
    KeepsTo options root schema value path (ofType options schema value path type) := by
  cases type with
  | any => trivial
  | boolean => cases value <;> trivial
  | null => cases value <;> trivial
  | number =>
    rw [ofType]
    split
    · exact Plan.every_settle fun f hf => absurd hf numberVerdicts_plain
    · trivial
  | integer =>
    rw [ofType]
    split
    · exact Plan.every_settle fun f hf => absurd hf numberVerdicts_plain
    · trivial
  | string =>
    cases value with
    | str s => exact Plan.every_settle fun f hf => textVerdicts_fails checks hf
    | _ => trivial
  | array =>
    cases value with
    | arr elements => exact array_every
    | _ => trivial
  | object =>
    cases value with
    | obj members => exact object_every checks
    | _ => trivial

theorem type_every {named : Json}
    (checks : ∀ type, namedType? named = some type → ChecksAs schema type) :
    KeepsTo options root schema value path (Check.type options schema value path named) := by
  unfold Check.type
  cases hnamed : namedType? named with
  | some type => exact ofType_every (checks type hnamed)
  | none => trivial

/-- Of a type only the items of a list lead on, and only a declared type is a list. -/
theorem beneath_of_governingType {governing : Node} (h : governingType? schema = some governing)
    {member : Node} (hmember : member ∈ governing.items) : schema.Beneath member := by
  unfold governingType? at h
  cases htype : schema.member? "type" with
  | some type =>
    simp only [htype] at h
    split at h
    · cases h
    · cases h
      exact (Node.beneath_of_member? htype).trans (Node.beneath_of_mem_items hmember).inside
  | none =>
    simp only [htype] at h
    have htext : ∃ name, governing.json = .str name := by
      unfold Node.member? at htype
      cases hjson : schema.json with
      | obj members =>
        rw [hjson] at h htype
        unfold inferredType? at h
        simp only [Option.map_eq_none_iff.mp htype] at h
        split at h
        · cases h
          exact ⟨_, rfl⟩
        · split at h <;> cases h
          exact ⟨_, rfl⟩
      | _ =>
        rw [hjson] at h
        cases h
    obtain ⟨name, hname⟩ := htext
    unfold Node.items at hmember
    rw [hname] at hmember
    cases hmember

theorem union_every {members : Node}
    (beneath : ∀ member ∈ members.items, schema.Beneath member)
    (checks : ∀ member ∈ members.items, ∀ type, namedType? member.json = some type →
      ChecksAs schema type) :
    KeepsTo options root schema value path (union options schema members value path) := by
  refine Plan.every_firstClean (by trivial) fun plan hplan => ?_
  obtain ⟨member, hmember, rfl⟩ := List.mem_map.mp hplan
  unfold unionMember
  split
  · exact .here (beneath member hmember)
  · exact type_every (checks member hmember)

theorem governing_every :
    KeepsTo options root schema value path (governing options root schema value path) := by
  unfold governing
  cases henum : schema.member? "enum" with
  | some members =>
    dsimp only
    unfold enumeration
    split
    · split <;> trivial
    · trivial
  | none =>
  cases hone : schema.member? "oneOf" with
  | some members =>
    dsimp only
    unfold oneOf
    split
    · apply Plan.every_countClean _ (each_every (Node.beneath_of_member? hone))
      intro count
      rcases count with _ | _ | count <;> trivial
    · trivial
  | none =>
  cases hall : schema.member? "allOf" with
  | some members =>
    dsimp only
    unfold allOf
    split
    · exact Plan.every_all (each_every (Node.beneath_of_member? hall))
    · trivial
  | none =>
  cases hany : schema.member? "anyOf" with
  | some members =>
    dsimp only
    unfold anyOf
    split
    · exact Plan.every_firstClean (by trivial) (each_every (Node.beneath_of_member? hany))
    · trivial
  | none =>
  have first : ∀ keyword ∈ combinators, schema.member? keyword = none := by
    simp [combinators, henum, hone, hall, hany]
  cases href : schema.member? "$ref" with
  | some ref => exact reference_every href first
  | none =>
  have ungoverned : ∀ keyword ∈ "$ref" :: combinators, schema.member? keyword = none :=
    List.forall_mem_cons.mpr ⟨href, first⟩
  cases htype : governingType? schema with
  | none => trivial
  | some type =>
    dsimp only
    split
    · exact union_every (fun member hmember => beneath_of_governingType htype hmember)
        fun member hmember type hnamed => .among ungoverned htype hmember hnamed
    · exact type_every fun named hnamed => .alone ungoverned htype hnamed

/-- The one statement about where a node leads and how it fails; all others only lead up to
it. -/
theorem node_every :
    KeepsTo options root schema value path (node options root schema value path) := by
  unfold node
  split
  · trivial
  · trivial
  · exact governing_every
  · trivial

/-- Whatever fails at a node, the run itself does not. -/
theorem node_every_plain :
    (node options root schema value path).Every (fun f => ¬ f.OfRun)
      (Leads options schema value path) (Refers options root schema value path) :=
  node_every.imp (fun _ h => h.not_ofRun) (fun _ _ _ => id) fun _ _ => id

end Check

end JsonSchema
