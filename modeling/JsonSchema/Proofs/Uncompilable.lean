import JsonSchema.Proofs.Containment
import JsonSchema.Proofs.Expansion
import JsonSchema.Proofs.Settlement

/-! Expressions that cannot be compiled. One that is rejected as malformed is reported where it
stands, as a pattern, as the pattern of a name or as a text of the format for expressions, and
never ends a run. Any other flaw does. -/
namespace JsonSchema

namespace Pattern

/-- It goes well, or the expression is rejected as malformed. -/
def Handled {α : Type} (outcome : Except Flaw α) : Prop :=
  ∀ flaw, outcome = .error flaw → flaw = .malformed

def isRejected (text : String) : Bool :=
  match ofText? text with
  | .error .malformed => true
  | _ => false

theorem isRejected_iff (text : String) : isRejected text ↔ ofText? text = .error .malformed := by
  unfold isRejected
  rcases ofText? text with flaw | pattern
  · cases flaw <;> simp
  · simp

/-- An expression that is found or not is never malformed. -/
theorem foundIn_ne_malformed (pattern : Pattern) (text : String) :
    pattern.foundIn text ≠ .error .malformed := by
  unfold foundIn
  dsimp only
  split
  · nofun
  · split
    · split <;> nofun
    · nofun

end Pattern

open Pattern

/-- The format for expressions decides a text exactly if the text compiles or is rejected. -/
theorem Format.regex_isOk_iff (s : String) :
    (∃ fits, Format.regex.accepts s = .ok fits) ↔ Handled (ofText? s) := by
  unfold Format.accepts Handled
  rcases ofText? s with flaw | pattern
  · cases flaw <;> simp
  · simp

theorem Format.regex_iff {s : String} {fits : Bool} (h : Format.regex.accepts s = .ok fits) :
    fits ↔ ∃ pattern, ofText? s = .ok pattern := by
  unfold Format.accepts at h
  rcases hread : ofText? s with flaw | pattern
  · rw [hread] at h
    cases flaw <;> cases h
    simp
  · rw [hread] at h
    cases h
    simp

namespace Check

section

variable {pattern : Json} {s : String}

theorem matchesPattern_isOk_iff :
    (∃ found, matchesPattern pattern s = .ok found) ↔
      ∀ text, pattern = .str text → Handled ((ofText? text).bind (·.foundIn s)) := by
  cases pattern with
  | str text =>
    simp only [Json.str.injEq, forall_eq']
    unfold matchesPattern Handled
    dsimp only
    cases hsearch : (ofText? text).bind (·.foundIn s) with
    | ok found => exact ⟨fun _ _ => nofun, fun _ => ⟨found, rfl⟩⟩
    | error flaw => cases flaw <;> simp
  | _ => exact ⟨fun _ _ => nofun, fun _ => ⟨false, rfl⟩⟩

/-- What is no text, or is rejected, matches nothing. -/
theorem matchesPattern_of_rejected
    (rejected : ∀ text, pattern = .str text → isRejected text) :
    matchesPattern pattern s = .ok false := by
  cases pattern with
  | str text =>
    have hsearch : (ofText? text).bind (·.foundIn s) = .error .malformed := by
      rw [(isRejected_iff text).mp (rejected text rfl)]
      rfl
    unfold matchesPattern
    simp only [hsearch]
  | _ => rfl

end

/-- No check fails with an expression that is rejected. -/
theorem Fails.ne_malformed {options : Options} {root schema : Node} {value : Json} {f : Fault}
    (h : Fails options root schema value f) : f ≠ .pattern .malformed := by
  cases h with
  | reference => nofun
  | pattern _ _ _ hflaw | format _ _ _ _ hflaw | name _ _ _ hflaw =>
    rintro ⟨⟩
    exact hflaw rfl
  | search _ _ _ _ _ hsearch =>
    rintro ⟨⟩
    exact foundIn_ne_malformed _ _ hsearch

end Check

/-- An answer that comes to what another one comes to, with some more violations in one place. -/
def Answer.Inserts (more : List Violation) (answer answer' : Answer) : Prop :=
  ∃ before after : Answer,
    answer = .inOrder [before, after] ∧ answer' = .inOrder [before, .ok more, after]

theorem Answer.inserts_third (more : List Violation) (first second last : Answer) :
    Inserts more (.inOrder [first, second, .ok [], last]) (.inOrder [first, second, .ok more, last]) := by
  refine ⟨.inOrder [first, second], last, ?_, ?_⟩ <;>
    rcases first with f | here <;> rcases second with g | there <;> rcases last with k | own <;>
    simp [inOrder, bind, Except.bind, pure, Except.pure]

namespace Check

/-- The expressions that are given for names, in order. -/
def patternNames (schema : Node) : List String :=
  ((patternProperties? schema).getD []).map (·.1)

/-- What the names that are rejected are reported as. -/
def rejections (schema : Node) (path : Path) : List Violation :=
  ((patternNames schema).filter (isRejected ·)).map fun text => unmatched (.str text) path

section

variable {guard : Guard} {answers : Answers} {scope : Scope} {schema schema' : Node} {value : Json}
  {path : Path}

/-- A name is reported if it is rejected, and passed over if it is read. -/
theorem answer_patternName {text : String} (handled : Handled (ofText? text)) :
    (patternName schema value path text).answer guard answers scope =
      .ok (if isRejected text then [unmatched (.str text) path] else []) := by
  unfold patternName isRejected
  rcases hread : ofText? text with flaw | pattern
  · cases handled flaw hread
    rfl
  · rfl

theorem handled_of_answer {text : String} {found : List Violation}
    (h : (patternName schema value path text).answer guard answers scope = .ok found) :
    Handled (ofText? text) := by
  intro flaw hread
  unfold patternName at h
  rw [hread] at h
  cases flaw <;> first | rfl | cases h

theorem answer_patternNames (handled : ∀ text ∈ patternNames schema, Handled (ofText? text)) :
    (Plan.all ((patternNames schema).map (patternName schema value path))).answer guard answers
      scope = .ok (rejections schema path) := by
  unfold rejections
  generalize patternNames schema = names at handled
  induction names with
  | nil => rfl
  | cons text rest ih =>
    rw [List.forall_mem_cons] at handled
    rw [List.map_cons, Plan.all, Plan.answer_both_of_ok (answer_patternName handled.1),
      ih handled.2, List.filter_cons]
    split <;> rfl

/-! What is found does not depend on the node that it is reported for. -/

theorem answer_settle_any (schema schema' : Node) (value : Json) (verdicts : List Verdict) :
    (Plan.settle schema' value path verdicts).answer guard answers scope =
      (Plan.settle schema value path verdicts).answer guard answers scope := by
  apply Plan.answer_all_congr
  rintro (f | _ | finding) - <;> rfl

theorem answer_dependency_any (schema schema' : Node) (members : Members) (owner : String)
    (target : Node) :
    (dependency schema' members path owner target).answer guard answers scope =
      (dependency schema members path owner target).answer guard answers scope := by
  unfold dependency
  split
  · split <;> rfl
  · rfl
  · rfl

theorem answer_additionalProperty_any (schema schema' additional : Node) (members : Members)
    (name : String) (value : Json) :
    (additionalProperty schema' additional members name value path).answer guard answers scope =
      (additionalProperty schema additional members name value path).answer guard answers scope := by
  unfold additionalProperty
  split
  · rfl
  · rfl
  · rfl
  · split
    · split <;> rfl
    · rfl

end

end Check

/-- Nodes that hold the same but for the patterns of names. -/
def Node.SameButPatterns (schema schema' : Node) : Prop :=
  ∀ keyword ≠ "patternProperties", schema'.member? keyword = schema.member? keyword

namespace Node.SameButPatterns

open Check

variable {schema schema' : Node} (same : schema.SameButPatterns schema')
include same

theorem value_eq {keyword : String} (h : keyword ≠ "patternProperties") :
    schema'.value keyword = schema.value keyword := by
  rw [Node.value_eq, Node.value_eq, same keyword h]

theorem declared_eq : declared schema' = declared schema := by
  rw [declared, declared, same "definitions" (by decide)]

theorem properties_eq : properties schema' = properties schema := by
  rw [properties, properties, same "properties" (by decide)]

theorem solely {type : SchemaType} (solely : Solely schema type) : Solely schema' type where
  plain keyword hkeyword := by
    rw [same keyword (by rintro rfl; revert hkeyword; decide)]
    exact solely.plain keyword hkeyword
  type := by
    have htype : Meaning.typeOf? schema' = Meaning.typeOf? schema := by
      rw [Meaning.typeOf?, Meaning.typeOf?, same "type" (by decide), same "properties" (by decide),
        same "items" (by decide)]
    rw [governingType?_eq, htype, ← governingType?_eq]
    exact solely.type

theorem objectVerdicts_eq (options : Options) (members : Members) (count : Nat) :
    limitVerdicts schema' .minProperties .maxProperties count ++ required options schema' members =
      limitVerdicts schema .minProperties .maxProperties count ++
        required options schema members := by
  rw [limitVerdicts, limitVerdicts, required, required, requiredNames, requiredNames,
    same.properties_eq, same.value_eq (by decide), same.value_eq (by decide),
    same.value_eq (by decide)]

variable {guard : Guard} {answers : Answers} {scope : Scope} {path : Path}

theorem answer_dependencies (options : Options) (members : Members) :
    (dependencies options schema' members path).answer guard answers scope =
      (dependencies options schema members path).answer guard answers scope := by
  rw [dependencies, dependencies, declaredDependencies, declaredDependencies,
    same "dependencies" (by decide)]
  apply Plan.answer_all_congr
  rintro ⟨owner, declared⟩ -
  dsimp only
  split
  · rfl
  · exact Plan.answer_all_congr fun target _ => answer_dependency_any _ _ members owner target

theorem answer_property (options : Options) (members : Members)
    (patterns : Option (List (Pattern × Node))) (name : String) (value : Json) :
    (property options schema' members patterns path name value).answer guard answers scope =
      (property options schema members patterns path name value).answer guard answers scope := by
  rw [property, property, same.properties_eq, same "additionalProperties" (by decide)]
  split
  · rfl
  · split
    · rfl
    · rfl
    · exact answer_additionalProperty_any _ _ _ members name value
    · split
      · rfl
      · exact answer_additionalProperty_any _ _ _ members name value

end Node.SameButPatterns

/-- A table of schemas without the names that are rejected. -/
def Json.withoutRejected : Json → Json
  | .obj table => .obj (table.filter fun (text, _) => !isRejected text)
  | json => json

namespace Node

/-- The node without the patterns of names that are rejected, where it stands. -/
def withoutRejected (schema : Node) : Node :=
  match schema.member? "patternProperties" with
  | some table =>
    ⟨.obj (Members.put "patternProperties" table.json.withoutRejected schema.json.entries),
      schema.address⟩
  | none => schema

theorem same_withoutRejected (schema : Node) : schema.SameButPatterns schema.withoutRejected := by
  intro keyword h
  unfold withoutRejected
  split
  · exact (schema.member?_put _ _ keyword).trans (if_neg h)
  · rfl

theorem members_withoutRejected (json : Json) (address : Option Address) :
    (⟨json.withoutRejected, address⟩ : Node).members =
      (⟨json, address⟩ : Node).members.filter fun (text, _) => !isRejected text := by
  cases json with
  | obj entries =>
    change List.map _ (entries.filter _) = (entries.map _).filter _
    rw [List.filter_map]
    rfl
  | _ => rfl

end Node

namespace Check

theorem patternProperties?_withoutRejected (schema : Node) :
    patternProperties? schema.withoutRejected =
      (patternProperties? schema).map (·.filter fun (text, _) => !isRejected text) := by
  unfold Node.withoutRejected patternProperties?
  cases htable : schema.member? "patternProperties" with
  | none => simp only [htable, Option.map_none]
  | some table =>
    rw [Node.member?_eq_map, Option.map_eq_some_iff] at htable
    obtain ⟨json, -, rfl⟩ := htable
    simp only [Node.member?_put, if_pos]
    have hmembers := Node.members_withoutRejected json
      (schema.below (.key "patternProperties") json).address
    cases json with
    | obj entries => exact congrArg some hmembers
    | _ => rfl

theorem patternNames_withoutRejected (schema : Node) :
    patternNames schema.withoutRejected = (patternNames schema).filter (!isRejected ·) := by
  unfold patternNames
  rw [patternProperties?_withoutRejected]
  cases patternProperties? schema with
  | none => rfl
  | some entries =>
    change List.map _ (entries.filter _) = List.filter _ (entries.map _)
    rw [List.filter_map]
    rfl

theorem rejections_withoutRejected (schema : Node) (path : Path) :
    rejections schema.withoutRejected path = [] := by
  rw [rejections, patternNames_withoutRejected, List.filter_filter]
  simp

/-- What is rejected is no pattern in the first place. -/
theorem compiled_filter_rejected (entries : List (String × Node)) :
    compiled (entries.filter fun (text, _) => !isRejected text) = compiled entries := by
  unfold compiled
  rw [List.filterMap_filter]
  apply List.filterMap_congr
  rintro ⟨text, node⟩ -
  by_cases hrejected : isRejected text
  · rw [if_neg (by simp [hrejected])]
    dsimp only
    rw [(isRejected_iff text).mp hrejected]
    rfl
  · rw [if_pos (by simp [hrejected])]

theorem compiled_withoutRejected (schema : Node) :
    (patternProperties? schema.withoutRejected).map compiled =
      (patternProperties? schema).map compiled := by
  rw [patternProperties?_withoutRejected, Option.map_map]
  exact Option.map_congr fun entries _ => compiled_filter_rejected entries

section

variable {guard : Guard} {answers : Answers} {scope : Scope} {schema : Node} {path : Path}

/-- The checks of the properties of an object that are not passed over. -/
def ownPlan (options : Options) (schema : Node) (members : Members) (path : Path) : Plan :=
  .all ((kept options members).map fun (name, value) =>
    property options schema members ((patternProperties? schema).map compiled) path name value)

/-- The constraints, the dependencies, the names that are patterns and the properties of an
object are gone through in that order. -/
theorem answer_object (options : Options) (schema : Node) (members : Members) :
    (object options schema members path).answer guard answers scope =
      .inOrder [
        (Plan.settle schema (.obj members) path
          (limitVerdicts schema .minProperties .maxProperties (kept options members).length
            ++ required options schema members)).answer guard answers scope,
        (dependencies options schema members path).answer guard answers scope,
        (Plan.all ((patternNames schema).map (patternName schema (.obj members) path))).answer guard
          answers scope,
        (ownPlan options schema members path).answer guard answers scope] := by
  rw [object, Plan.answer_all, patternNames, List.map_map]
  rfl

theorem answer_ownPlan_withoutRejected (options : Options) (members : Members) :
    (ownPlan options schema.withoutRejected members path).answer guard answers scope =
      (ownPlan options schema members path).answer guard answers scope := by
  rw [ownPlan, ownPlan, compiled_withoutRejected]
  apply Plan.answer_all_congr
  rintro ⟨name, value⟩ -
  exact schema.same_withoutRejected.answer_property options members _ name value

/-- An object is checked as it is without its rejected names, with their reports put in. -/
theorem object_inserts (options : Options) (members : Members)
    (handled : ∀ text ∈ patternNames schema, Handled (ofText? text)) :
    Answer.Inserts (rejections schema path)
      ((object options schema.withoutRejected members path).answer guard answers scope)
      ((object options schema members path).answer guard answers scope) := by
  have handled' : ∀ text ∈ patternNames schema.withoutRejected, Handled (ofText? text) := by
    rw [patternNames_withoutRejected]
    exact fun text htext => handled text (List.mem_of_mem_filter htext)
  have same := schema.same_withoutRejected
  rw [answer_object, answer_object, answer_patternNames handled, answer_patternNames handled',
    rejections_withoutRejected, answer_settle_any schema, same.objectVerdicts_eq,
    same.answer_dependencies, answer_ownPlan_withoutRejected]
  exact Answer.inserts_third _ _ _ _

/-- A list is returned only if every name is read or rejected. -/
theorem handled_of_answer_object {options : Options} {members : Members}
    {violations : List Violation}
    (h : (object options schema members path).answer guard answers scope = .ok violations)
    {text : String} (htext : text ∈ patternNames schema) : Handled (ofText? text) := by
  obtain ⟨parts, -⟩ := Plan.answer_all_ok h
  obtain ⟨⟨name, node⟩, hmem, rfl⟩ := List.mem_map.mp htext
  obtain ⟨found, hfound⟩ := parts _ (.tail _ (.tail _ (.head _)))
  obtain ⟨names, -⟩ := Plan.answer_all_ok hfound
  obtain ⟨own, hown⟩ := names _ (List.mem_map_of_mem hmem)
  exact handled_of_answer hown

/-- By induction on the budget: what is rejected is no fault of a run. -/
theorem ne_malformed_of_answer {budget : Nat} {scope : Scope} {schema : Node} {value : Json}
    {path : Path} {f : Fault} (h : answer .chain budget scope schema value path = .error f) :
    f ≠ .pattern .malformed := by
  induction budget generalizing scope schema value path f with
  | zero =>
    cases h
    nofun
  | succ budget ih =>
    unfold answer at h
    split at h
    · cases h
      nofun
    · cases h
      nofun
    · let inner := Guard.chain.declare scope (declared schema)
      have every : (node inner.options inner.root schema value path).Every
          (· ≠ .pattern .malformed) (Leads inner.options schema value path)
          (Refers inner.options inner.root schema value path) :=
        node_every.imp (fun _ hfails => hfails.ne_malformed) (fun _ _ _ => id) fun _ _ => id
      have bounds : ∀ g : Fault, g.Bounds → g ≠ .pattern .malformed := by
        rintro g (_ | _) <;> nofun
      exact (Plan.answer_error every bounds (fun _ hbelow => ih hbelow) h :)

end

end Check

/-- Patterns for names of which the first and the last are rejected. -/
def Check.partlyRejected : Node :=
  .document .schema (.obj [
    ("properties", .obj [("a", .obj [("type", .str "string")])]),
    ("patternProperties", .obj [("(", .obj []), ("^b", .obj []), ("[", .null)])])

end JsonSchema
