import JsonSchema.Proofs.Opening
import JsonSchema.Proofs.Pointer
import JsonSchema.Proofs.Reports

/-! The place of every violation is real: a part of the value stands there, or an object
lacks the required member that would. The value that is handed down is the one at the path. -/
namespace JsonSchema

/-- A violation stands at a part of a value or, if a required member is missing, at the
place that this member would have. -/
inductive Violation.StandsIn (whole : Json) (violation : Violation) : Prop
  | part {part : Json} : violation.kind ≠ .required → whole.at? violation.path = some part →
      StandsIn whole violation
  | absent {parent : Path} {name : String} {members : Members} : violation.kind = .required →
      violation.path = parent.key name → whole.at? parent = some (.obj members) →
      Members.has members name = false → StandsIn whole violation

namespace Check

variable {whole value part : Json} {path place : Path}

theorem Within.isProper (within : Within value path part place) (proper : value.isProper) :
    part.isProper := by
  cases within with
  | here => exact proper
  | part hpart => exact hpart.isProper proper

/-- What is handed on stands where it is said to. -/
theorem Within.at? (within : Within value path part place) (proper : value.isProper)
    (found : whole.at? path = some value) : whole.at? place = some part := by
  cases within with
  | here => exact found
  | part hpart =>
    rw [Json.at?_append, found, Option.bind_some]
    exact Option.bind_eq_some_iff.mpr ⟨part, hpart.child? proper, rfl⟩

theorem Reports.standsIn {finding : Finding} (reports : Reports value path place finding)
    (proper : value.isProper) (found : whole.at? path = some value) :
    (finding.violation place).StandsIn whole := by
  cases reports with
  | @wrong part _ _ within here =>
    have hplace : (finding.violation place).path = place := by
      change place ++ finding.below = place
      rw [here.1, List.append_nil]
    exact .part here.2 (hplace ▸ within.at? proper found)
  | @missing members name _ hvalue hmissing hkind hbelow =>
    subst hvalue
    exact .absent hkind (congrArg (path ++ ·) hbelow) found hmissing

/-- By induction on the budget: below the root as at the root, the value is the one that
stands at the path. -/
theorem answer_standsIn {guard : Guard} {budget : Nat} {scope : Scope} {schema : Node}
    {violations : List Violation} (proper : value.isProper) (found : whole.at? path = some value)
    (h : answer guard budget scope schema value path = .ok violations) :
    ∀ violation ∈ violations, violation.StandsIn whole := by
  induction budget generalizing scope schema value path violations with
  | zero => cases h
  | succ budget ih =>
    intro violation hmem
    rw [answer] at h
    split at h
    · cases h
    · cases h
    · rcases Plan.mem_answer node_placed h hmem with
        ⟨place, finding, hreports, rfl⟩ | ⟨part, place, hwithin, _, _, _, hbelow, hmem⟩
      · exact hreports.standsIn proper found
      · exact ih (hwithin.isProper proper) (hwithin.at? proper found) hbelow violation hmem

end Check

/-- A validation that starts gives the answer of the root at the root of the value. -/
theorem answerWith_standsIn {guard : Guard} {budget : Options → Nat} {schema value : Json}
    {given : Given} {violations : List Violation} (proper : value.isProper)
    (h : answerWith guard budget schema value given = .ok violations) :
    ∀ violation ∈ violations, violation.StandsIn value := by
  unfold answerWith at h
  rcases hopening : opening? schema given with f | _ | options
  · rw [hopening] at h
    cases h
  · rw [hopening] at h
    cases h
    exact fun violation hmem => absurd hmem List.not_mem_nil
  · rw [hopening] at h
    exact Check.answer_standsIn proper rfl h

/-- A validation that ends in a list of violations. -/
theorem answerWith_of_validate {schema value : Json} {given : Given} {heard after : List Notice}
    {violations : List Violation}
    (returns : (validate schema value given).on heard = (.ok violations, after)) :
    answerWith .chain (enough schema value) schema value given = .ok violations := by
  obtain ⟨hook, told, hrun⟩ := on_validateWith Guard.chain_ignoresHook (enough schema value)
    schema value given
  exact hearing_ok ((hrun heard).symm.trans returns)

/-- Following the path of a violation, or its pointer, from the root of the value leads to a
part of it. A required member that is missing is the exception: there all steps but the last
lead to an object, which has no member of the name that is the last. No object of the value
has two members of one name, which holds of every value that is read from a text. -/
theorem validate_locates {schema value : Json} {given : Given} {heard after : List Notice}
    {violations : List Violation} (proper : value.isProper)
    (returns : (validate schema value given).on heard = (.ok violations, after)) :
    ∀ violation ∈ violations,
      Pointer.tokens? violation.path.pointer.toList = some (violation.path.map Step.token) ∧
      (violation.kind ≠ .required → ∃ part, value.at? violation.path = some part ∧
        value.pointed? violation.path.pointer = some part) ∧
      (violation.kind = .required → ∃ parent name members, violation.path = Path.key parent name ∧
        value.at? parent = some (.obj members) ∧
        value.pointed? (Path.pointer parent) = some (.obj members) ∧
        Members.has members name = false ∧ value.pointed? violation.path.pointer = none) := by
  intro violation hmem
  refine ⟨Pointer.tokens?_pointer violation.path, ?_⟩
  cases answerWith_standsIn proper (answerWith_of_validate returns) violation hmem with
  | @part part hkind hat =>
    exact ⟨fun _ => ⟨part, hat, Json.pointed?_of_at? hat⟩, fun heq => absurd heq hkind⟩
  | @absent parent name members hkind hpath hat hmissing =>
    refine ⟨fun hne => absurd hkind hne, fun _ => ?_⟩
    have hnone : members.lookup name = none := by
      rwa [Members.has_eq_isSome_lookup, Option.isSome_eq_false_iff, Option.isNone_iff_eq_none]
        at hmissing
    refine ⟨parent, name, members, hpath, hat, Json.pointed?_of_at? hat, hmissing, ?_⟩
    rw [hpath, Json.pointed?_key hat name, hnone]

theorem validate_locates_odd_names :
    let schema := Json.obj [("required", .arr [.str "~/"]), ("additionalProperties", .bool false),
      ("properties", .obj [("", .obj [("items", .obj [("type", .str "null")])])])]
    let value := Json.obj [("", .arr [.null, .bool true]), ("0", .null), ("a.b[0]/~", .null)]
    ∃ violations, (validate schema value .absent).on [] = (.ok violations, []) ∧
      violations.map (fun violation => (violation.path.pointer, violation.kind)) =
        [("/~0~1", .required), ("//1", .type), ("/0", .additionalProperties),
          ("/a.b[0]~1~0", .additionalProperties)] ∧
      ∀ violation ∈ violations, violation.kind ≠ .required →
        ∃ part, value.pointed? violation.path.pointer = some part := by
  intro schema value
  have proper : value.isProper := by decide
  have returns : (validate schema value .absent).on [] = (.ok _, []) := rfl
  refine ⟨_, returns, rfl, fun violation hmem hkind => ?_⟩
  obtain ⟨part, _, hpart⟩ := (validate_locates proper returns violation hmem).2.1 hkind
  exact ⟨part, hpart⟩

end JsonSchema
