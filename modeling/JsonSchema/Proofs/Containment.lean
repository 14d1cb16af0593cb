import JsonSchema.Proofs.Termination
import JsonSchema.Proofs.Typed
import JsonSchema.Proofs.Visits

/-! What can end a validation. However malformed a schema is below its root, what cannot be used
is passed over or reported: a run without a hook ends in a list unless it hits one of its bounds,
or an expression or a pointer fails at a node that it has come to. -/
namespace JsonSchema

/-- The bounds of a run: a reference that is being followed already, and the limit on nesting. -/
inductive Fault.Bounds : Fault → Prop
  | cycle (references : List String) (context : Option String) :
      Bounds (.refused (.cycle references) context)
  | depth (limit : Json) (context : Option String) : Bounds (.refused (.depth limit) context)

theorem Scope.follow_error {scope : Scope} {link : Link} {f : Fault}
    (h : scope.follow link = .error f) : f.Bounds := by
  unfold follow at h
  split at h
  · cases h
    exact .cycle _ _
  · cases h

/-- Where a plan goes on: at a node that it enters, or follows its reference to, once all that
comes before has an answer. Unlike the visits of a plan, these are also those of one that fails
in the end. -/
inductive Plan.ComesTo (answers : Answers) (scope : Scope) :
    Plan → Scope → Node → Json → Path → Prop
  | enter (schema : Node) (value : Json) (path : Path) :
      ComesTo answers scope (.enter schema value path) scope schema value path
  | follow {link : Link} {inner : Scope} (value : Json) : scope.follow link = .ok inner →
      ComesTo answers scope (.follow link value) inner link.target value link.path
  | first {first second : Plan} {inner : Scope} {node : Node} {value : Json} {path : Path} :
      first.ComesTo answers scope inner node value path →
      ComesTo answers scope (.both first second) inner node value path
  | second {first second : Plan} {inner : Scope} {node : Node} {value : Json} {path : Path}
      {here : List Violation} : first.answer .chain answers scope = .ok here →
      second.ComesTo answers scope inner node value path →
      ComesTo answers scope (.both first second) inner node value path
  | branch {branch : Plan} {next : Bool → Plan} {inner : Scope} {node : Node} {value : Json}
      {path : Path} : branch.ComesTo answers scope inner node value path →
      ComesTo answers scope (.probe branch next) inner node value path
  | next {branch : Plan} {next : Bool → Plan} {inner : Scope} {node : Node} {value : Json}
      {path : Path} {found : List Violation} : branch.answer .chain answers scope = .ok found →
      (next found.isEmpty).ComesTo answers scope inner node value path →
      ComesTo answers scope (.probe branch next) inner node value path

namespace Plan

variable {answers : Answers} {scope inner : Scope} {node : Node} {value : Json} {path : Path}
  {plan : Plan} {accounted : Fault → Prop} {f : Fault}

theorem ComesTo.options_eq (h : plan.ComesTo answers scope inner node value path) :
    inner.options = scope.options := by
  induction h with
  | enter => rfl
  | follow value hfollow => rw [(Scope.follow_ok hfollow).2]
  | first _ ih | second _ _ ih | branch _ ih | next _ _ ih => exact ih

/-- A fault that ends a plan is one of its own, a reference that is refused, or one of a node
that the plan comes to. -/
theorem answer_error {enters : Node → Json → Path → Prop} {follows : Link → Json → Prop}
    (every : plan.Every accounted enters follows) (bounds : ∀ f, f.Bounds → accounted f)
    (below : ∀ {inner node value path f}, plan.ComesTo answers scope inner node value path →
      answers inner node value path = .error f → accounted f)
    (h : plan.answer .chain answers scope = .error f) : accounted f := by
  induction plan with
  | clean | report => cases h
  | fault =>
    cases h
    exact every
  | enter schema value path => exact below (.enter schema value path) h
  | follow link value =>
    cases hfollow : scope.follow link with
    | error g =>
      rw [answer_follow_of_error hfollow] at h
      cases h
      exact bounds f (Scope.follow_error hfollow)
    | ok inner =>
      rw [answer_follow_of_ok hfollow] at h
      exact below (.follow value hfollow) h
  | both first second ihFirst ihSecond =>
    cases hfirst : first.answer .chain answers scope with
    | error g =>
      rw [answer_both_of_error hfirst] at h
      cases h
      exact ihFirst every.1 (fun hcomes => below (.first hcomes)) hfirst
    | ok here =>
      cases hsecond : second.answer .chain answers scope with
      | error g =>
        rw [answer_both_of_ok hfirst, hsecond] at h
        cases h
        exact ihSecond every.2 (fun hcomes => below (.second hfirst hcomes)) hsecond
      | ok there =>
        rw [answer_both_of_ok hfirst, hsecond] at h
        cases h
  | probe branch next ihBranch ihNext =>
    cases hbranch : branch.answer .chain answers scope with
    | error g =>
      rw [answer_probe_of_error hbranch] at h
      cases h
      exact ihBranch every.1 (fun hcomes => below (.branch hcomes)) hbranch
    | ok found =>
      rw [answer_probe_of_ok hbranch] at h
      exact ihNext found.isEmpty (every.2 found.isEmpty)
        (fun hcomes => below (.next hbranch hcomes)) h

end Plan

namespace Check

/-- The nodes that a run comes to before it ends, each with its definitions in force. -/
inductive ComesTo : Nat → Scope → Node → Json → Path → Scope → Node → Json → Prop
  | here {budget : Nat} {scope : Scope} {schema : Node} {value : Json} {path : Path} :
      Options.exceeds path.length scope.options.maxDepth = some false →
      ComesTo (budget + 1) scope schema value path (scope.withDefinitions (declared schema)) schema
        value
  | onward {budget : Nat} {scope next last : Scope} {schema below node : Node}
      {value part own : Json} {path place : Path} :
      Options.exceeds path.length scope.options.maxDepth = some false →
      (Check.node (scope.withDefinitions (declared schema)).options scope.root schema value
        path).ComesTo (answer .chain budget) (scope.withDefinitions (declared schema)) next below
        part place →
      ComesTo budget next below part place last node own →
      ComesTo (budget + 1) scope schema value path last node own

/-- A fault that ends a run is that of a check that it comes to, a bound, or its budget. -/
theorem answer_error (accounted : Fault → Prop) {budget : Nat} {scope : Scope} {schema : Node}
    {value : Json} {path : Path} {f : Fault} {limit : Int}
    (exhausted : accounted .exhausted) (bounds : ∀ f, f.Bounds → accounted f)
    (fails : ∀ {last node own f}, ComesTo budget scope schema value path last node own →
      Fails last.options last.root node own f → accounted f)
    (hlimit : scope.options.maxDepth = .int limit)
    (h : answer .chain budget scope schema value path = .error f) : accounted f := by
  induction budget generalizing scope schema value path f with
  | zero =>
    cases h
    exact exhausted
  | succ budget ih =>
    cases hdepth : Options.exceeds path.length scope.options.maxDepth with
    | none =>
      rw [hlimit] at hdepth
      cases hdepth
    | some tooDeep =>
    rw [answer, hdepth] at h
    cases tooDeep with
    | true =>
      cases h
      exact bounds _ (.depth _ _)
    | false =>
    have here (f : Fault) (hfails : Fails (scope.withDefinitions (declared schema)).options
        scope.root schema value f) : accounted f := fails (.here hdepth) hfails
    refine Plan.answer_error (node_every.imp here (fun _ _ _ => id) fun _ _ => id) bounds ?_ h
    intro next below part place g hcomes hbelow
    have hnext : next.options.maxDepth = .int limit := by rwa [hcomes.options_eq]
    exact ih (fun hlast => fails (.onward hdepth hcomes hlast)) hnext hbelow

end Check

/-- A validation comes to a check that fails with a fault. -/
def Given.Meets (given : Given) (schema value : Json) (f : Fault) : Prop :=
  ∃ opened, opening? schema given = .ok (some opened) ∧
    let root := Node.document .schema schema
    ∃ last node own,
      Check.ComesTo (enough schema value opened) (.start opened root) root value [] last node own ∧
        Check.Fails last.options last.root node own f

/-- A fault that ends a validation comes from its opening, its bounds, or a check. -/
theorem answerWith_error {schema value : Json} {given : Given} {options : Options} {limit : Int}
    {f : Fault} (hoptions : given.options = .ok options) (hlimit : options.maxDepth = .int limit)
    (h : answerWith .chain (enough schema value) schema value given = .error f) :
    opening? schema given = .error f ∨ f.Bounds ∨ given.Meets schema value f := by
  rcases hopening : opening? schema given with g | _ | opened
  · rw [answerWith, hopening] at h
    cases h
    exact .inl rfl
  · rw [answerWith, hopening] at h
    cases h
  · have hends : f ≠ .exhausted := by
      rintro rfl
      exact answerWith_ends Guard.chain_wanes schema value given h
    rw [answerWith_of_opening hopening] at h
    obtain ⟨same, hsame, rfl⟩ := opening?_some hopening
    rw [hoptions] at hsame
    cases hsame
    have haccounted := Check.answer_error
      (fun f => f = .exhausted ∨ f.Bounds ∨ given.Meets schema value f) (.inl rfl)
      (fun f hbounds => .inr (.inl hbounds))
      (fun {last node own f} hcomes hfails =>
        .inr (.inr ⟨_, hopening, last, node, own, hcomes, hfails⟩)) hlimit h
    exact .inr (haccounted.resolve_left hends)

/-- A pattern that may take no character at all may start anywhere. -/
theorem Pattern.ofText?_of_low {text : String} {flags : Flags} {terms : List Term} {expr : Expr}
    (hterms : termsOf text = .ok (flags, terms)) (hexpr : Term.exprAll flags terms = .ok expr)
    (hwithin : expr.looksWithin) (hlow : (Term.widthAll terms).low = 0) :
    ofText? text = .ok ⟨expr, 0, ⟨0, none⟩⟩ := by
  have hopening : Opening.ofTerms flags terms = ⟨0, none⟩ := by simp [Opening.ofTerms, hlow]
  rw [ofText?, hterms]
  simp only [bind, Except.bind, hexpr]
  rw [if_pos hwithin, hlow, hopening]
  rfl

/-- A loop that gives nothing back keeps the mark of a group that a later round has entered in
vain, beyond the place where the group was left. -/
theorem Pattern.crossedGroup_found : ∃ pattern, ofText? "(?:(a)|b?)*+" = .ok pattern ∧
    pattern.foundIn "ab" = .error .crossedGroup := by
  let captured := Term.group (some 1) [] [] [.leaf (.point 97 false)]
  let skipped := Term.loop .greedy 0 (some 1) [.leaf (.point 98 false)]
  let terms := [Term.loop .possessive 0 none [.alt [[captured], [skipped]]]]
  have hterms : termsOf "(?:(a)|b?)*+" = .ok ([], terms) := rfl
  have hlow : (Term.widthAll terms).low = 0 := by
    simp [terms, Term.widthAll, Term.widthSum, Term.width, Width.add, Width.times, Width.capped,
      Width.exactly]
  obtain ⟨expr, hexpr, hwithin, hfound⟩ : ∃ expr, Term.exprAll [] terms = .ok expr ∧
      expr.looksWithin ∧
        (⟨expr, 0, ⟨0, none⟩⟩ : Pattern).foundIn "ab" = .error .crossedGroup :=
    ⟨_, rfl, by decide +kernel, by decide +kernel⟩
  exact ⟨_, ofText?_of_low hterms hexpr hwithin hlow, hfound⟩

/-- What is said of a text that is not found to match. -/
def Check.unmatched (pattern : Json) (path : Path) : Violation :=
  Finding.violation { kind := .pattern, details := [("pattern", pattern)] } path

/-- The check of a text against a pattern alone comes to what the search comes to. -/
theorem Check.answer_of_pattern (pattern : Json) (s : String) {address : Option Address}
    {scope : Scope} {path : Path} {budget : Nat}
    (hdepth : Options.exceeds path.length scope.options.maxDepth = some false) :
    answer .chain (budget + 1) scope
        ⟨.obj [("type", .str "string"), ("pattern", pattern)], address⟩ (.str s) path =
      (matchesPattern pattern s).map fun found =>
        if found then [] else [unmatched pattern path] := by
  let schema : Node := ⟨.obj [("type", .str "string"), ("pattern", pattern)], address⟩
  have solely : Solely schema .string := ⟨by simp [schema, combinators, Node.member?], _, rfl, rfl⟩
  change answer .chain (budget + 1) scope schema (.str s) path = _
  rw [solely.answer_eq hdepth]
  have hverdict : Check.pattern schema s = (matchesPattern pattern s).map fun found =>
      if found then none else some { kind := .pattern, details := [("pattern", pattern)] } := by
    change (matchesPattern pattern s >>= fun found => if found then pure none else pure _) = _
    rcases matchesPattern pattern s with f | _ | _ <;> rfl
  change (Plan.settle schema (.str s) path
    (Check.pattern schema s :: .ok none :: .ok none :: .ok none :: [])).answer _ _ _ = _
  rw [hverdict]
  rcases matchesPattern pattern s with f | _ | _ <;> rfl

theorem on_validate_of_pattern (pattern : Json) (s : String) {given : Given} {options : Options}
    (hoptions : given.options = .ok options)
    (hdepth : Options.exceeds 0 options.maxDepth = some false) :
    ∃ told, ∀ heard,
      (validate (.obj [("type", .str "string"), ("pattern", pattern)]) (.str s) given).on heard =
        hearing options.hook
          ((Check.matchesPattern pattern s).map fun found =>
            if found then [] else [Check.unmatched pattern []]) heard told := by
  let schema := Json.obj [("type", .str "string"), ("pattern", pattern)]
  let root := Node.document .schema schema
  let opened := options.withDefinitions []
  have hopening : opening? schema given = .ok (some opened) :=
    opening?_of_ne_nil hoptions (List.cons_ne_nil _ _)
  obtain ⟨budget, hbudget⟩ := Nat.exists_eq_succ_of_ne_zero
    (enough_pos schema (.str s) opened).ne'
  have hvalidate : validate schema (.str s) given =
      Check.descend .chain (budget + 1) (.start opened root) root (.str s) [] := by
    rw [validate, validateWith, hopening, ← Nat.succ_eq_add_one, ← hbudget]
    rfl
  have hanswer : Check.answer .chain (budget + 1) (.start opened root) root (.str s) [] = _ :=
    Check.answer_of_pattern pattern s hdepth
  rw [hvalidate, ← hanswer]
  exact Check.on_descend Guard.chain_ignoresHook (budget + 1) (.start opened root) root (.str s) []

theorem validate_of_pattern (pattern : Json) (s : String) {given : Given} {options : Options}
    (hoptions : given.options = .ok options) (hhook : options.hook = none)
    (hdepth : Options.exceeds 0 options.maxDepth = some false) (heard : List Notice) :
    ((validate (.obj [("type", .str "string"), ("pattern", pattern)]) (.str s) given).on heard).1 =
      (Check.matchesPattern pattern s).map fun found =>
        if found then [] else [Check.unmatched pattern []] := by
  obtain ⟨told, hrun⟩ := on_validate_of_pattern pattern s hoptions hdepth
  rw [hrun, hhook, hearing_none]

/-- Nothing keeps a search that does not end well from ending the validation. -/
theorem validate_of_search {text s : String} {flaw : Pattern.Flaw} {given : Given}
    {options : Options} (hsearch : (Pattern.ofText? text).bind (·.foundIn s) = .error flaw)
    (hflaw : flaw ≠ .malformed) (hoptions : given.options = .ok options)
    (hhook : options.hook = none) (hdepth : Options.exceeds 0 options.maxDepth = some false)
    (heard : List Notice) :
    let schema := Json.obj [("type", .str "string"), ("pattern", .str text)]
    ((validate schema (.str s) given).on heard).1 = .error (.pattern flaw) := by
  have hmatches : Check.matchesPattern (.str text) s = .error (.pattern flaw) := by
    unfold Check.matchesPattern
    simp only [hsearch]
  intro schema
  rw [validate_of_pattern (.str text) s hoptions hhook hdepth, hmatches]
  rfl

end JsonSchema
