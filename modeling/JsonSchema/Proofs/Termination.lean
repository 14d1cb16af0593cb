import Mathlib.Data.List.ProdSigma
import JsonSchema.Proofs.Opening
import JsonSchema.Proofs.Rank

/-! Every validation ends within the budget that is computed for it, wherever its references
lead. -/
namespace JsonSchema

/-- The references to a schema that are not on the chain yet at a place. -/
def Guard.chainRoom (tops : List Node) (scope : Scope) (path : Path) : Nat :=
  (Node.space tops ×ˢ Node.space tops).countP fun (ref, target) =>
    !scope.chain.any (·.isSame ⟨ref.json.display, target, path⟩)

theorem Link.isSame_self {link : Link} (object : link.target.json.isObject) :
    link.isSame link = true := by
  simp [isSame, Node.isSame, object]

theorem Scope.follow_ok {scope next : Scope} {link : Link} (h : scope.follow link = .ok next) :
    scope.chain.any (·.isSame link) = false ∧
      next = { scope with chain := scope.chain ++ [link] } := by
  unfold follow at h
  cases hloop : scope.chain.any (·.isSame link) with
  | true =>
    rw [hloop] at h
    cases h
  | false =>
    rw [hloop] at h
    cases h
    exact ⟨rfl, rfl⟩

theorem Guard.chain_wanes (tops : List Node) :
    Guard.chain.Wanes tops (chainRoom tops) (Node.extent tops * Node.extent tops) where
  room_le scope path := by
    apply Nat.le_trans List.countP_le_length
    rw [List.length_product]
    exact Nat.mul_le_mul (Node.length_space tops) (Node.length_space tops)
  refuse h := by
    rintro rfl
    change Scope.follow _ _ = _ at h
    unfold Scope.follow at h
    split at h <;> cases h
  options h := by rw [(Scope.follow_ok h).2]
  root h := by rw [(Scope.follow_ok h).2]
  follow := by
    intro scope next ref target path href htarget hobject h
    obtain ⟨hfresh, rfl⟩ := Scope.follow_ok h
    have hsame : Link.isSame ⟨ref.json.display, target, path⟩ ⟨ref.json.display, target, path⟩ :=
      Link.isSame_self hobject
    apply countP_lt _ (List.mem_product.mpr ⟨href.mem_space, htarget.mem_space⟩)
    · simp only [hfresh]
      rfl
    · simp only [List.any_append, List.any_cons, hsame]
      simp
    · intro (other, node) _ hroom
      dsimp only at hroom ⊢
      rw [Bool.not_eq_true', List.any_append, Bool.or_eq_false_iff] at hroom
      rw [hroom.1]
      rfl
  declare_options _ _ := rfl
  declare_root _ _ := rfl
  declare _ _ _ _ := rfl

/-- The nodes that all schemas of a run come from. -/
def Scope.tops (scope : Scope) : List Node :=
  scope.root :: scope.options.additionalItems :: scope.options.additionalProperties ::
    scope.options.definitions.map (·.2)

theorem Scope.among_tops (scope : Scope) : scope.Among scope.tops where
  root := ⟨_, by simp [tops], .self _⟩
  additionalItems := ⟨_, by simp [tops], .self _⟩
  additionalProperties := ⟨_, by simp [tops], .self _⟩
  definitions name node hmem :=
    ⟨node, by simpa [tops] using .inr (.inr (.inr ⟨name, hmem⟩)), .self node⟩

theorem Scope.extent_tops (scope : Scope) :
    Node.extent scope.tops = scope.root.json.size + scope.options.size := by
  simp only [tops, Node.extent_cons, Node.extent_definitions, Options.size]
  omega

/-- A rank with as much room as there are pairs of nodes is within the budget. -/
theorem rank_lt_budget {tops : List Node} {room : Scope → Path → Nat} {size : Nat}
    {scope : Scope} {schema : Node} {value : Json} {path : Path}
    (extent : Node.extent tops = size) (room_le : room scope path ≤ size * size)
    (among : Node.Among tops schema) :
    rank tops room (size * size) scope schema value path < budget size value.depth := by
  subst extent
  have hnodes : value.depth * (Node.extent tops + 1) + scope.unopened tops <
      (value.depth + 1) * (Node.extent tops + 1) + 0 :=
    digits_lt (Nat.lt_succ_self value.depth) (scope.unopened_le tops) 0
  have hroom := digits_lt hnodes room_le 0
  have hsize := digits_lt hroom among.size_le 0
  rw [budget, ← Nat.mul_assoc, ← Nat.mul_assoc]
  exact hsize

/-- A run ends if its guard wanes. -/
theorem answerWith_ends {guard : Guard} {room : List Node → Scope → Path → Nat}
    (wanes : ∀ tops, guard.Wanes tops (room tops) (Node.extent tops * Node.extent tops))
    (schema value : Json) (given : Given) :
    answerWith guard (enough schema value) schema value given ≠ .error .exhausted := by
  unfold answerWith
  rcases hopening : opening? schema given with f | _ | opened
  · intro h
    cases h
    exact opening?_error hopening trivial
  · intro h
    cases h
  · obtain ⟨options, _, rfl⟩ := opening?_some hopening
    let root := Node.document .schema schema
    let scope := Scope.start (options.withDefinitions (Check.declared root)) root
    have hwanes := wanes scope.tops
    have hextent := scope.extent_tops
    rw [hextent] at hwanes
    apply Check.answer_ends hwanes scope.among_tops ⟨root, List.mem_cons_self, .self root⟩
    exact rank_lt_budget hextent (hwanes.room_le scope []) ⟨root, List.mem_cons_self, .self root⟩

/-- And so does a validation with it, unless its hook asks to stop before. -/
theorem validateWith_ends {guard : Guard} {room : List Node → Scope → Path → Nat}
    (ignores : guard.IgnoresHook)
    (wanes : ∀ tops, guard.Wanes tops (room tops) (Node.extent tops * Node.extent tops))
    (schema value : Json) (given : Given) (heard : List Notice) :
    ((validateWith guard (enough schema value) schema value given).on heard).1 ≠
      .error .exhausted := by
  rcases validateWith_fst ignores (enough schema value) schema value given heard
    with hsame | ⟨message, hstop⟩
  · rw [hsame]
    exact answerWith_ends wanes schema value given
  · rw [hstop]
    intro h
    cases h

/-- Every validation ends, in a list or a fault of another kind, and takes no more steps
than are computed from the sizes of the schema, of the definitions and other options, and
of the value: with more of them it is the same. -/
theorem validate_ends (schema value : Json) (given : Given) (heard : List Notice) :
    ((validate schema value given).on heard).1 ≠ .error .exhausted ∧
      ∀ steps : Options → Nat,
        (∀ options, budget (schema.size + options.size) value.depth ≤ steps options) →
        (validateWith .chain steps schema value given).on heard =
          (validate schema value given).on heard := by
  have hends : ((validate schema value given).on heard).1 ≠ .error .exhausted :=
    validateWith_ends Guard.chain_ignoresHook Guard.chain_wanes schema value given heard
  exact ⟨hends, fun steps le => validateWith_mono le hends⟩

/-- Options with a definition that leads back to itself through the root of any schema. -/
def Given.circular : Given :=
  .settings (Options.settingsOf (.document .options (.obj [
    ("max_depth", .int 1000000000),
    ("definitions", .obj [("whole", .obj [("anyOf", .arr [.obj [("$ref", .str "#")]])])])])))

theorem validate_ends_circular :
    ((validate (.obj [("$ref", .str "whole")]) .null .circular).on []).1 ≠ .error .exhausted ∧
      (validateWith .chain (fun options => enough (.obj [("$ref", .str "whole")]) .null options + 1)
          (.obj [("$ref", .str "whole")]) .null .circular).on [] =
        (validate (.obj [("$ref", .str "whole")]) .null .circular).on [] :=
  have ends := validate_ends (.obj [("$ref", .str "whole")]) .null .circular []
  ⟨ends.1, ends.2 _ fun _ => Nat.le_succ _⟩

end JsonSchema
