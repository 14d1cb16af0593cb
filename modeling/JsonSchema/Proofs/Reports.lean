import JsonSchema.Json.Proper
import JsonSchema.Proofs.Answer

/-! What the plan of a node reports, and where: that a required member is missing, or
something that is wrong with the value itself or with a part one step below it. -/
namespace JsonSchema

/-- Every report of a plan is of one kind, and every value that it goes on with, at its
place, of another. What is found in branches that are tried out is not reported. -/
def Plan.Throughout (reports : Path → Finding → Prop) (enters : Json → Path → Prop) : Plan → Prop
  | .clean | .fault _ => True
  | .report _ _ path finding => reports path finding
  | .both first second => first.Throughout reports enters ∧ second.Throughout reports enters
  | .enter _ value path => enters value path
  | .follow link value => enters value link.path
  | .probe _ next => ∀ passes, (next passes).Throughout reports enters

namespace Plan

variable {reports : Path → Finding → Prop} {enters : Json → Path → Prop}

theorem throughout_all {plans : List Plan}
    (each : ∀ plan ∈ plans, plan.Throughout reports enters) :
    (Plan.all plans).Throughout reports enters := by
  induction plans with
  | nil => trivial
  | cons plan rest ih =>
    rw [List.forall_mem_cons] at each
    exact ⟨each.1, ih each.2⟩

/-- Only what comes after all branches have failed is reported. -/
theorem throughout_firstClean {otherwise : Plan} (last : otherwise.Throughout reports enters)
    (plans : List Plan) : (Plan.firstClean otherwise plans).Throughout reports enters := by
  induction plans with
  | nil => exact last
  | cons plan rest ih =>
    intro passes
    cases passes with
    | true => trivial
    | false => exact ih

theorem throughout_countClean {next : Nat → Plan}
    (last : ∀ count, (next count).Throughout reports enters) (plans : List Plan) (count : Nat) :
    (Plan.countClean next count plans).Throughout reports enters := by
  induction plans generalizing count with
  | nil => exact last count
  | cons plan rest ih => exact fun passes => ih _

theorem throughout_settle {schema : Node} {value : Json} {path : Path} {verdicts : List Verdict}
    (each : ∀ finding, .ok (some finding) ∈ verdicts → reports path finding) :
    (Plan.settle schema value path verdicts).Throughout reports enters := by
  apply throughout_all
  intro plan hplan
  obtain ⟨verdict, hverdict, rfl⟩ := List.mem_map.mp hplan
  rcases verdict with f | _ | finding
  · trivial
  · trivial
  · exact each finding hverdict

/-- Each violation of an answer is one that the plan reports, or comes from a value that
it goes on with. -/
theorem mem_answer {guard : Guard} {answers : Answers} {scope : Scope} {plan : Plan}
    (throughout : plan.Throughout reports enters) {violations : List Violation}
    (h : plan.answer guard answers scope = .ok violations) {violation : Violation}
    (hmem : violation ∈ violations) :
    (∃ path finding, reports path finding ∧ violation = finding.violation path) ∨
      ∃ value path, enters value path ∧ ∃ inner schema found,
        answers inner schema value path = .ok found ∧ violation ∈ found := by
  induction plan generalizing violations with
  | clean =>
    cases h
    cases hmem
  | fault f => cases h
  | report schema value path finding =>
    cases h
    cases List.mem_singleton.mp hmem
    exact .inl ⟨path, finding, throughout, rfl⟩
  | both first second ihFirst ihSecond =>
    obtain ⟨here, there, hhere, hthere, rfl⟩ := answer_both_ok h
    rcases List.mem_append.mp hmem with hmem | hmem
    · exact ihFirst throughout.1 hhere hmem
    · exact ihSecond throughout.2 hthere hmem
  | enter schema value path => exact .inr ⟨value, path, throughout, scope, schema, _, h, hmem⟩
  | follow link value =>
    cases hfollow : guard.follow scope link with
    | error f =>
      rw [answer_follow_of_error hfollow] at h
      cases h
    | ok inner =>
      rw [answer_follow_of_ok hfollow] at h
      exact .inr ⟨value, link.path, throughout, inner, link.target, _, h, hmem⟩
  | probe branch next _ ihNext =>
    obtain ⟨found, _, hnext⟩ := answer_probe_ok h
    exact ihNext found.isEmpty (throughout found.isEmpty) hnext hmem

end Plan

/-- A finding about the value at the place where it is made. -/
def Finding.Here (finding : Finding) : Prop :=
  finding.below = [] ∧ finding.kind ≠ .required

namespace Check

/-- A value and its parts, each at its place. -/
inductive Within (value : Json) (path : Path) : Json → Path → Prop
  | here : Within value path value path
  | part {part : Json} {step : Step} : value.Part step part →
      Within value path part (path ++ [step])

/-- What the plan of a node reports about a value at a path. -/
inductive Reports (value : Json) (path : Path) : Path → Finding → Prop
  | wrong {part : Json} {place : Path} {finding : Finding} : Within value path part place →
      finding.Here → Reports value path place finding
  | missing {members : Members} {name : String} {finding : Finding} : value = .obj members →
      Members.has members name = false → finding.kind = .required →
      finding.below = [.key name] → Reports value path path finding

abbrev Placed (value : Json) (path : Path) (plan : Plan) : Prop :=
  plan.Throughout (Reports value path) (Within value path)

variable {options : Options} {root schema : Node} {value : Json} {path : Path}

theorem placed_settle {verdicts : List Verdict}
    (each : ∀ finding, .ok (some finding) ∈ verdicts → finding.Here) :
    Placed value path (.settle schema value path verdicts) :=
  Plan.throughout_settle fun finding h => .wrong .here (each finding h)

theorem report_placed {finding : Finding} (here : finding.Here) :
    Placed value path (.report schema value path finding) :=
  .wrong .here here

theorem mismatch_placed (expected : SchemaType) :
    Placed value path (mismatch schema value path expected) :=
  report_placed ⟨rfl, nofun⟩

theorem limitVerdicts_here {least most : Kind} {count : Nat} {finding : Finding}
    (h : .ok (some finding) ∈ limitVerdicts schema least most count)
    (hleast : least ≠ .required) (hmost : most ≠ .required) : finding.Here := by
  have hlimit {kind : Kind} {limit : Json} {broken : Bool} (hkind : kind ≠ .required)
      (h : limitFinding kind limit broken = some finding) : finding.Here := by
    unfold limitFinding at h
    split at h <;> cases h
    exact ⟨rfl, hkind⟩
  rcases List.mem_cons.mp h with heq | hmem
  · exact hlimit hleast (Except.ok.inj heq).symm
  · exact hlimit hmost (Except.ok.inj (List.mem_singleton.mp hmem)).symm

theorem additionalItem_placed {additional : Node} {i : Nat} {item : Json} {step : Step}
    (hpart : value.Part step item) :
    Placed value path (additionalItem schema additional i item (path ++ [step])) := by
  unfold additionalItem
  cases additional.json with
  | null => trivial
  | bool b =>
    cases b with
    | true => trivial
    | false => exact .wrong (.part hpart) ⟨rfl, nofun⟩
  | arr _ =>
    have hlast : Placed value path (.report schema item (path ++ [step])
        { kind := .itemNotValid, details := [("index", .int i)] }) :=
      .wrong (.part hpart) ⟨rfl, nofun⟩
    exact Plan.throughout_firstClean hlast _
  | _ => exact .part hpart

/-- Elements, each by a plan that keeps to that element. -/
theorem indexed_placed {elements : List Json} (plan : Nat → Json → Plan)
    (each : ∀ (i : Nat) item, (Json.arr elements).Part (.index i) item →
      Placed (.arr elements) path (plan i item)) :
    Placed (.arr elements) path (.all ((indexed elements).map fun (i, item) => plan i item)) := by
  apply Plan.throughout_all
  intro one hone
  obtain ⟨⟨i, item⟩, hmem, rfl⟩ := List.mem_map.mp hone
  obtain ⟨⟨item', i'⟩, hzip, heq⟩ := List.mem_map.mp hmem
  cases heq
  exact each i item (.item (List.mem_zipIdx_iff_getElem?.mp hzip))

theorem items_placed {elements : List Json} :
    Placed (.arr elements) path (items options schema elements path) := by
  unfold items
  cases schema.member? "items" with
  | none =>
    dsimp only
    split
    · exact indexed_placed _ fun i item hpart => additionalItem_placed hpart
    · trivial
  | some node =>
    dsimp only
    split
    · apply indexed_placed
      intro i item hpart
      unfold tupleItem
      cases node.items[i]? with
      | none => exact additionalItem_placed hpart
      | some own => exact .part hpart
    · apply indexed_placed fun i item => .enter node item (path.index i)
      exact fun i item hpart => .part hpart

theorem array_placed {elements : List Json} :
    Placed (.arr elements) path (array options schema (.arr elements) elements path) := by
  refine ⟨placed_settle fun finding h => ?_, items_placed⟩
  rcases List.mem_append.mp h with hlimit | hunique
  · exact limitVerdicts_here hlimit nofun nofun
  · have hfinding := Except.ok.inj (List.mem_singleton.mp hunique)
    unfold uniqueItems at hfinding
    split at hfinding <;> cases hfinding
    exact ⟨rfl, nofun⟩

theorem dependencies_placed {members : Members} :
    Placed (.obj members) path (dependencies options schema members path) := by
  apply Plan.throughout_all
  intro plan hplan
  obtain ⟨⟨owner, declared⟩, _, rfl⟩ := List.mem_map.mp hplan
  dsimp only
  split
  · trivial
  · apply Plan.throughout_all
    intro one hone
    obtain ⟨target, _, rfl⟩ := List.mem_map.mp hone
    unfold dependency
    cases target.json with
    | str name =>
      dsimp only
      split
      · trivial
      · exact .wrong .here ⟨rfl, nofun⟩
    | obj _ => exact .here
    | _ => exact .wrong .here ⟨rfl, nofun⟩

theorem forbidden_placed {members : Members} {name : String} {own : Json}
    (hpart : (Json.obj members).Part (.key name) own) :
    Placed (.obj members) path (forbidden schema members name (path.key name)) :=
  .wrong (.part hpart) ⟨rfl, nofun⟩

theorem additionalProperty_placed {members : Members} {additional : Node} {name : String}
    {own : Json} (hpart : (Json.obj members).Part (.key name) own) :
    Placed (.obj members) path
      (additionalProperty schema additional members name own (path.key name)) := by
  unfold additionalProperty
  cases additional.json with
  | null => trivial
  | bool b =>
    cases b with
    | true => trivial
    | false => exact forbidden_placed hpart
  | _ =>
    dsimp only
    split
    · cases additional.member? name with
      | none => exact forbidden_placed hpart
      | some node => exact .part hpart
    · exact .part hpart

theorem property_placed {members : Members} {patterns : Option (List (Pattern × Node))}
    {name : String} {own : Json} (hpart : (Json.obj members).Part (.key name) own) :
    Placed (.obj members) path (property options schema members patterns path name own) := by
  unfold property
  cases (properties schema).lookup name with
  | some node => exact .part hpart
  | none =>
    dsimp only
    rcases matching? name (patterns.getD []) with f | _ | node
    · trivial
    · cases schema.member? "additionalProperties" with
      | some additional => exact additionalProperty_placed hpart
      | none =>
        dsimp only
        split
        · exact forbidden_placed hpart
        · exact additionalProperty_placed hpart
    · exact .part hpart

theorem patternName_placed {text : String} :
    Placed value path (patternName schema value path text) := by
  unfold patternName
  split
  · trivial
  · exact .wrong .here ⟨rfl, nofun⟩
  · trivial

/-- A name that is required is reported where it is missing. -/
theorem required_reports {members : Members} {finding : Finding}
    (h : .ok (some finding) ∈ required options schema members) :
    Reports (.obj members) path path finding := by
  obtain ⟨name, _, heq⟩ := List.mem_map.mp h
  have hfinding := Except.ok.inj heq
  split at hfinding
  · cases hfinding
  · rename_i hmissing
    cases hfinding
    rw [Bool.or_eq_true, not_or, Bool.not_eq_true] at hmissing
    exact .missing rfl hmissing.1 rfl rfl

theorem object_placed {members : Members} :
    Placed (.obj members) path (object options schema members path) := by
  refine ⟨Plan.throughout_settle fun finding h => ?_, dependencies_placed, ?_, ?_, trivial⟩
  · rcases List.mem_append.mp h with hlimit | hrequired
    · exact .wrong .here (limitVerdicts_here hlimit nofun nofun)
    · exact required_reports hrequired
  · apply Plan.throughout_all
    intro plan hplan
    obtain ⟨⟨text, node⟩, _, rfl⟩ := List.mem_map.mp hplan
    exact patternName_placed
  · apply Plan.throughout_all
    intro plan hplan
    obtain ⟨⟨name, own⟩, hmem, rfl⟩ := List.mem_map.mp hplan
    exact property_placed (.member (List.mem_filter.mp hmem).1)

theorem multipleOf_here {finding : Finding} (h : multipleOf schema value = some finding) :
    finding.Here := by
  obtain ⟨divisor, _, hfinding⟩ := Option.bind_eq_some_iff.mp h
  split at hfinding <;> cases hfinding
  exact ⟨rfl, nofun⟩

theorem minimum_here {finding : Finding} (h : minimum schema value = some finding) :
    finding.Here := by
  unfold minimum at h
  dsimp only at h
  split at h
  · cases h
  · split at h
    · split at h <;> cases h
      exact ⟨rfl, nofun⟩
    · split at h <;> cases h
      exact ⟨rfl, nofun⟩

theorem maximum_here {finding : Finding} (h : maximum schema value = some finding) :
    finding.Here := by
  unfold maximum at h
  dsimp only at h
  split at h
  · cases h
  · split at h
    · split at h <;> cases h
      exact ⟨rfl, nofun⟩
    · split at h <;> cases h
      exact ⟨rfl, nofun⟩

theorem exclusiveMinimum_here {finding : Finding}
    (h : exclusiveMinimum schema value = some finding) : finding.Here := by
  unfold exclusiveMinimum at h
  dsimp only at h
  split at h <;> cases h
  exact ⟨rfl, nofun⟩

theorem exclusiveMaximum_here {finding : Finding}
    (h : exclusiveMaximum schema value = some finding) : finding.Here := by
  unfold exclusiveMaximum at h
  dsimp only at h
  split at h <;> cases h
  exact ⟨rfl, nofun⟩

theorem numberVerdicts_here {finding : Finding}
    (h : .ok (some finding) ∈ numberVerdicts schema value) : finding.Here := by
  unfold numberVerdicts at h
  simp only [List.mem_cons, List.not_mem_nil, or_false, Except.ok.injEq] at h
  rcases h with h | h | h | h | h
  · exact multipleOf_here h.symm
  · exact minimum_here h.symm
  · exact exclusiveMinimum_here h.symm
  · exact maximum_here h.symm
  · exact exclusiveMaximum_here h.symm

theorem pattern_here {s : String} {finding : Finding}
    (h : pattern schema s = .ok (some finding)) : finding.Here := by
  unfold pattern at h
  cases hmember : schema.member? "pattern" with
  | none =>
    simp only [hmember] at h
    cases h
  | some own =>
    simp only [hmember] at h
    rcases hmatch : matchesPattern own.json s with fault | _ | _ <;> rw [hmatch] at h <;> cases h
    exact ⟨rfl, nofun⟩

theorem format_here {s : String} {finding : Finding}
    (h : format options schema s = .ok (some finding)) : finding.Here := by
  unfold format at h
  split at h
  · cases h
  · split at h
    · cases h
    · split at h
      · cases h
        exact ⟨rfl, nofun⟩
      · split at h <;> cases h
        exact ⟨rfl, nofun⟩

theorem textVerdicts_here {s : String} {finding : Finding}
    (h : .ok (some finding) ∈ textVerdicts options schema s) : finding.Here := by
  rcases List.mem_append.mp h with htext | hlimit
  · rcases List.mem_cons.mp htext with hpattern | hformat
    · exact pattern_here hpattern.symm
    · exact format_here (List.mem_singleton.mp hformat).symm
  · exact limitVerdicts_here hlimit nofun nofun

theorem ofType_placed {type : SchemaType} :
    Placed value path (ofType options schema value path type) := by
  cases type with
  | any => trivial
  | boolean =>
    cases value with
    | bool _ => trivial
    | _ => exact mismatch_placed .boolean
  | null =>
    cases value with
    | null => trivial
    | _ => exact mismatch_placed .null
  | number =>
    rw [ofType]
    split
    · exact placed_settle fun finding h => numberVerdicts_here h
    · exact mismatch_placed .number
  | integer =>
    rw [ofType]
    split
    · exact placed_settle fun finding h => numberVerdicts_here h
    · exact mismatch_placed .integer
  | string =>
    cases value with
    | str s => exact placed_settle fun finding h => textVerdicts_here h
    | _ => exact mismatch_placed .string
  | array =>
    cases value with
    | arr elements => exact array_placed
    | _ => exact mismatch_placed .array
  | object =>
    cases value with
    | obj members => exact object_placed
    | _ => exact mismatch_placed .object

theorem type_placed {named : Json} :
    Placed value path (Check.type options schema value path named) := by
  unfold Check.type
  cases namedType? named with
  | some type => exact ofType_placed
  | none => exact .wrong .here ⟨rfl, nofun⟩

theorem each_placed (nodes : List Node) :
    ∀ plan ∈ each nodes value path, Placed value path plan := by
  intro plan hplan
  obtain ⟨node, _, rfl⟩ := List.mem_map.mp hplan
  exact .here

theorem enumeration_placed {members : Node} :
    Placed value path (enumeration schema members value path) := by
  unfold enumeration
  split
  · split
    · trivial
    · exact .wrong .here ⟨rfl, nofun⟩
  · exact .wrong .here ⟨rfl, nofun⟩

/-- A combinator is gone through, or is itself at fault. -/
theorem combined_placed {members : Node} {whole : Plan} {kind : Kind}
    (hwhole : Placed value path whole) (hkind : kind ≠ .required) :
    Placed value path (if members.json.isArray then whole
      else .report schema value path (malformedCombinator kind)) := by
  split
  · exact hwhole
  · exact report_placed ⟨rfl, hkind⟩

theorem oneOfVerdict_here {count : Nat} {finding : Finding}
    (h : oneOfVerdict count = some finding) : finding.Here := by
  rcases count with _ | _ | count <;> cases h <;> exact ⟨rfl, nofun⟩

theorem reference_placed {ref : Json} :
    Placed value path (reference options root schema ref value path) := by
  unfold reference
  split
  · trivial
  · split
    · trivial
    · exact .wrong .here ⟨rfl, nofun⟩
    · exact .here

theorem governing_placed :
    Placed value path (governing options root schema value path) := by
  unfold governing
  cases schema.member? "enum" with
  | some members => exact enumeration_placed
  | none =>
  cases schema.member? "oneOf" with
  | some members =>
    refine combined_placed (Plan.throughout_countClean (fun count => ?_) _ 0) (by decide)
    cases h : oneOfVerdict count with
    | none => trivial
    | some finding => exact report_placed (oneOfVerdict_here h)
  | none =>
  cases schema.member? "allOf" with
  | some members => exact combined_placed (Plan.throughout_all (each_placed _)) (by decide)
  | none =>
  cases schema.member? "anyOf" with
  | some members =>
    refine combined_placed (Plan.throughout_firstClean ?_ _) (by decide)
    exact report_placed ⟨rfl, nofun⟩
  | none =>
  cases schema.member? "$ref" with
  | some ref => exact reference_placed
  | none =>
  cases governingType? schema with
  | none => trivial
  | some type =>
    dsimp only
    split
    · refine Plan.throughout_firstClean ?_ _
      exact report_placed ⟨rfl, nofun⟩
    · exact type_placed

/-- The one statement about what a node reports; all others only lead up to it. -/
theorem node_placed : Placed value path (node options root schema value path) := by
  unfold node
  split
  · trivial
  · trivial
  · exact governing_placed
  · exact .wrong .here ⟨rfl, nofun⟩

end Check

end JsonSchema
