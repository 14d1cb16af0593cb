import JsonSchema.Proofs.Answer
import JsonSchema.Proofs.Leads

/-! How long a run can go on. Four counts, from the most to the least significant: how deep
the value is, how many nodes declare names that are not bound, how much room the guard still
has at the place of the value, and how large the node is. Every step makes one of them smaller
and may enlarge only those after it. -/
namespace JsonSchema

theorem countP_lt {α : Type} {p q : α → Bool} {l : List α} (le : ∀ a ∈ l, q a → p a) {a : α}
    (hmem : a ∈ l) (hp : p a = true) (hq : q a = false) : l.countP q < l.countP p := by
  induction l with
  | nil => cases hmem
  | cons head rest ih =>
    rw [List.forall_mem_cons] at le
    have hrest : rest.countP q ≤ rest.countP p := List.countP_mono_left le.2
    rw [List.countP_cons, List.countP_cons]
    rcases List.mem_cons.mp hmem with rfl | hmem
    · rw [if_pos hp, if_neg (by simp [hq])]
      omega
    · have hlt := ih le.2 hmem
      cases hhead : q head with
      | false =>
        rw [if_neg (by simp)]
        omega
      | true =>
        rw [if_pos rfl, if_pos (le.1 hhead)]
        omega

/-- A smaller first digit makes a smaller number, whatever the second digit is. -/
theorem digits_lt {first first' second' base : Nat} (hfirst : first' < first)
    (hsecond : second' ≤ base) (second : Nat) :
    first' * (base + 1) + second' < first * (base + 1) + second := by
  have hmul : (first' + 1) * (base + 1) ≤ first * (base + 1) := Nat.mul_le_mul_right _ hfirst
  rw [Nat.succ_mul] at hmul
  omega

namespace Node

/-- All nodes inside one of several nodes. -/
def space (tops : List Node) : List Node :=
  tops.flatMap fun top => within top.json.size top

def extent (tops : List Node) : Nat :=
  (tops.map (·.json.size)).sum

theorem extent_cons (top : Node) (tops : List Node) :
    extent (top :: tops) = top.json.size + extent tops := rfl

/-- The schemas of a table are as large as the table. -/
theorem extent_definitions (table : Definitions) : extent (table.map (·.2)) = table.size := by
  induction table with
  | nil => rfl
  | cons head rest ih =>
    rw [List.map_cons, extent_cons, ih]
    rfl

theorem length_space (tops : List Node) : (space tops).length ≤ extent tops := by
  rw [space, List.length_flatMap]
  exact List.sum_le_sum fun top _ => length_within top.json.size top

theorem Among.mem_space {tops : List Node} {node : Node} (h : Among tops node) :
    node ∈ space tops := by
  obtain ⟨top, htop, hinside⟩ := h
  exact List.mem_flatMap.mpr ⟨top, htop, hinside.mem_within (Nat.le_refl _)⟩

theorem Among.size_le {tops : List Node} {node : Node} (h : Among tops node) :
    node.json.size ≤ extent tops := by
  obtain ⟨top, htop, hinside⟩ := h
  exact Nat.le_trans hinside.size_le (List.le_sum_of_mem (List.mem_map_of_mem htop))

theorem Among.inside {tops : List Node} {node inner : Node} (h : Among tops node)
    (inside : node.Inside inner) : Among tops inner := by
  obtain ⟨top, htop, htopInside⟩ := h
  exact ⟨top, htop, htopInside.trans inside⟩

end Node

/-- All schemas of a scope are among those inside some nodes. -/
structure Scope.Among (tops : List Node) (scope : Scope) : Prop where
  root : Node.Among tops scope.root
  additionalItems : Node.Among tops scope.options.additionalItems
  additionalProperties : Node.Among tops scope.options.additionalProperties
  definitions (name : String) (node : Node) :
    (name, node) ∈ scope.options.definitions → Node.Among tops node

namespace Scope

/-- How many nodes declare names that are not bound. -/
def unopened (tops : List Node) (scope : Scope) : Nat :=
  (Node.space tops).countP fun node => scope.options.definitions.adds (Check.declared node)

theorem unopened_le (tops : List Node) (scope : Scope) :
    scope.unopened tops ≤ Node.extent tops :=
  Nat.le_trans List.countP_le_length (Node.length_space tops)

end Scope

/-- A guard that has only so much room at each place, and less of it after each reference to
a schema. What it does when definitions come into force leaves its room as it is, unless a
name is bound. -/
structure Guard.Wanes (tops : List Node) (guard : Guard) (room : Scope → Path → Nat)
    (limit : Nat) : Prop where
  room_le (scope : Scope) (path : Path) : room scope path ≤ limit
  refuse {scope : Scope} {link : Link} {f : Fault} :
    guard.follow scope link = .error f → f ≠ .exhausted
  options {scope next : Scope} {link : Link} :
    guard.follow scope link = .ok next → next.options = scope.options
  root {scope next : Scope} {link : Link} :
    guard.follow scope link = .ok next → next.root = scope.root
  follow {scope next : Scope} {ref target : Node} {path : Path} :
    Node.Among tops ref → Node.Among tops target → target.json.isObject →
    guard.follow scope ⟨ref.json.display, target, path⟩ = .ok next →
      room next path < room scope path
  declare_options (scope : Scope) (extra : Definitions) :
    (guard.declare scope extra).options = scope.options.withDefinitions extra
  declare_root (scope : Scope) (extra : Definitions) :
    (guard.declare scope extra).root = scope.root
  declare (scope : Scope) (extra : Definitions) (path : Path) :
    scope.options.definitions.adds extra = false →
      room (guard.declare scope extra) path = room scope path

/-- The counts of a run, as the digits of a number. -/
def rank (tops : List Node) (room : Scope → Path → Nat) (limit : Nat) (scope : Scope)
    (schema : Node) (value : Json) (path : Path) : Nat :=
  ((value.depth * (Node.extent tops + 1) + scope.unopened tops) * (limit + 1) + room scope path)
    * (Node.extent tops + 1) + schema.json.size

section

variable {tops : List Node} {guard : Guard} {room : Scope → Path → Nat} {limit : Nat}
  {scope next : Scope} {schema node : Node} {value part : Json} {path path' : Path}

theorem rank_beneath (beneath : schema.Beneath node) :
    rank tops room limit scope node value path < rank tops room limit scope schema value path :=
  Nat.add_lt_add_left beneath.size_lt _

theorem rank_part (wanes : guard.Wanes tops room limit) (among : Node.Among tops node)
    (depth : part.depth < value.depth) :
    rank tops room limit scope node part path' < rank tops room limit scope schema value path := by
  apply digits_lt _ among.size_le
  apply digits_lt _ (wanes.room_le scope path')
  exact digits_lt depth (scope.unopened_le tops) _

theorem rank_follow (among : Node.Among tops node)
    (same : next.options = scope.options) (less : room next path < room scope path) :
    rank tops room limit next node value path < rank tops room limit scope schema value path := by
  apply digits_lt _ among.size_le
  rw [Scope.unopened, same]
  exact Nat.add_lt_add_left less _

/-- A node that binds names makes room, but there is one node fewer that does. -/
theorem rank_declare (wanes : guard.Wanes tops room limit) (scope : Scope)
    (among : Node.Among tops schema) (value : Json) (path : Path) :
    rank tops room limit (guard.declare scope (Check.declared schema)) schema value path ≤
      rank tops room limit scope schema value path := by
  have hdefinitions : (guard.declare scope (Check.declared schema)).options.definitions =
      scope.options.definitions.extend (Check.declared schema) := by
    rw [wanes.declare_options]
    rfl
  cases hadds : scope.options.definitions.adds (Check.declared schema) with
  | false =>
    have hextend := (Definitions.extend_eq_self_iff _ _).mpr hadds
    rw [rank, rank, wanes.declare _ _ _ hadds, Scope.unopened, Scope.unopened, hdefinitions,
      hextend]
  | true =>
    have hless : (guard.declare scope (Check.declared schema)).unopened tops <
        scope.unopened tops := by
      unfold Scope.unopened
      rw [hdefinitions]
      exact countP_lt (fun _ _ => Definitions.adds_of_adds_extend) among.mem_space hadds
        (Definitions.not_adds_extend _ _)
    apply Nat.le_of_lt
    apply digits_lt _ among.size_le
    apply digits_lt _ (wanes.room_le _ path)
    exact Nat.add_lt_add_left hless _

end

/-- A plan ends if everything ends that it leads to. -/
theorem Plan.answer_ends {guard : Guard} {answers : Answers}
    {scope : Scope} {enters : Node → Json → Path → Prop} {follows : Link → Json → Prop}
    (henter : ∀ node value path, enters node value path →
      answers scope node value path ≠ .error .exhausted)
    (hrefuse : ∀ link f, guard.follow scope link = .error f → f ≠ .exhausted)
    (hfollow : ∀ link value next, follows link value → guard.follow scope link = .ok next →
      answers next link.target value link.path ≠ .error .exhausted)
    {plan : Plan} (every : plan.Every (fun f => ¬ f.OfRun) enters follows) :
    plan.answer guard answers scope ≠ .error .exhausted := by
  induction plan with
  | clean =>
    intro h
    cases h
  | report schema value path finding =>
    intro h
    cases h
  | fault f =>
    intro h
    cases h
    exact every trivial
  | both first second ihFirst ihSecond =>
    rw [answer]
    rcases hfirst : first.answer guard answers scope with f | here
    · intro h
      cases h
      exact ihFirst every.1 hfirst
    · rcases hsecond : second.answer guard answers scope with f | there
      · intro h
        cases h
        exact ihSecond every.2 hsecond
      · intro h
        cases h
  | enter schema value path => exact henter schema value path every
  | follow link value =>
    rw [answer]
    rcases hlink : guard.follow scope link with f | next
    · intro h
      cases h
      exact hrefuse link _ hlink rfl
    · exact hfollow link value next every hlink
  | probe branch next ihBranch ihNext =>
    rw [answer]
    rcases hbranch : branch.answer guard answers scope with f | found
    · intro h
      cases h
      exact ihBranch every.1 hbranch
    · exact ihNext found.isEmpty (every.2 found.isEmpty)

theorem Scope.Among.mono {tops more : List Node} {scope : Scope} (among : scope.Among tops)
    (le : tops ⊆ more) : scope.Among more := by
  have hmore {node : Node} : Node.Among tops node → Node.Among more node :=
    fun ⟨top, htop, hinside⟩ => ⟨top, le htop, hinside⟩
  exact ⟨hmore among.root, hmore among.additionalItems, hmore among.additionalProperties,
    fun name node hmem => hmore (among.definitions name node hmem)⟩

/-- What a scope becomes keeps to the same nodes. -/
theorem Scope.Among.declare {tops : List Node} {guard : Guard} {room : Scope → Path → Nat}
    {limit : Nat} (wanes : guard.Wanes tops room limit) {scope : Scope} {schema : Node}
    (among : scope.Among tops) (hschema : Node.Among tops schema) :
    (guard.declare scope (Check.declared schema)).Among tops := by
  refine ⟨?_, ?_, ?_, fun name node hmem => ?_⟩
  · rw [wanes.declare_root]
    exact among.root
  · rw [wanes.declare_options]
    exact among.additionalItems
  · rw [wanes.declare_options]
    exact among.additionalProperties
  · rw [wanes.declare_options] at hmem
    rcases List.mem_append.mp hmem with hold | hnew
    · exact among.definitions name node hold
    · exact hschema.inside (Check.beneath_of_mem_table (List.mem_of_mem_filter hnew)).inside

theorem Scope.Among.follow {tops : List Node} {scope next : Scope} (among : scope.Among tops)
    (options : next.options = scope.options) (root : next.root = scope.root) :
    next.Among tops := by
  refine ⟨?_, ?_, ?_, ?_⟩
  · rw [root]
    exact among.root
  · rw [options]
    exact among.additionalItems
  · rw [options]
    exact among.additionalProperties
  · rw [options]
    exact among.definitions

/-- What the options or the schema say about additional parts is among the same nodes. -/
theorem Scope.Among.part {tops : List Node} {scope : Scope} {schema node : Node}
    (among : scope.Among tops) (hschema : Node.Among tops schema)
    (h : Node.Among [schema, scope.options.additionalItems, scope.options.additionalProperties]
      node) : Node.Among tops node := by
  obtain ⟨top, htop, hinside⟩ := h
  rcases List.mem_cons.mp htop with rfl | htop
  · exact hschema.inside hinside
  rcases List.mem_cons.mp htop with rfl | htop
  · exact among.additionalItems.inside hinside
  rcases List.mem_singleton.mp htop with rfl
  exact among.additionalProperties.inside hinside

theorem Scope.Among.resolve {tops : List Node} {scope : Scope} (among : scope.Among tops)
    {ref : Json} {target : Node}
    (h : resolve? ref scope.options.definitions scope.root = .ok (some target)) :
    Node.Among tops target ∨ ∃ s, target.json = .str s := by
  rcases resolve?_found h with ⟨name, hmem⟩ | ⟨top, htop, hinside⟩ | htext
  · exact .inl (among.definitions name target hmem)
  · cases htop
    exact .inl (among.root.inside hinside)
  · exact .inr htext

namespace Check

/-- What is no object is no schema, and its check is over at once. -/
theorem answer_not_object {guard : Guard} {budget : Nat} {scope : Scope} {schema : Node}
    {value : Json} {path : Path} (h : schema.json.isObject = false) :
    answer guard (budget + 1) scope schema value path ≠ .error .exhausted := by
  rw [answer]
  rcases Options.exceeds path.length scope.options.maxDepth with _ | _ | _
  · intro h
    cases h
  · unfold node
    cases hjson : schema.json with
    | obj members =>
      rw [hjson] at h
      cases h
    | _ =>
      intro h
      cases h
  · intro h
    cases h

/-- With a budget above its rank, a run ends. By induction on the budget: all that the plan
of a node leads to has a smaller rank. -/
theorem answer_ends {tops : List Node} {guard : Guard} {room : Scope → Path → Nat} {limit : Nat}
    (wanes : guard.Wanes tops room limit) {budget : Nat} {scope : Scope} {schema : Node}
    {value : Json} {path : Path} (among : scope.Among tops) (hschema : Node.Among tops schema)
    (enough : rank tops room limit scope schema value path < budget) :
    answer guard budget scope schema value path ≠ .error .exhausted := by
  induction budget generalizing scope schema value path with
  | zero => cases enough
  | succ budget ih =>
    rw [answer]
    rcases Options.exceeds path.length scope.options.maxDepth with _ | _ | _
    · intro h
      cases h
    · have hinner := among.declare wanes hschema
      have hrank := rank_declare wanes scope hschema value path
      generalize guard.declare scope (declared schema) = inner at hinner hrank
      have hbudget : rank tops room limit inner schema value path ≤ budget := by omega
      apply Plan.answer_ends _ (fun _ _ => wanes.refuse) _ node_every_plain
      · intro node part path' hleads
        cases hleads with
        | here beneath =>
          exact ih hinner (hschema.inside beneath.inside)
            (Nat.lt_of_lt_of_le (rank_beneath beneath) hbudget)
        | part step hnode hpart =>
          have hamong := hinner.part hschema hnode
          exact ih hinner hamong
            (Nat.lt_of_lt_of_le (rank_part wanes hamong hpart.depth_lt) hbudget)
      · intro link part next hrefers hnext
        cases hrefers with
        | @ref ref target beneath hresolve =>
          have hobject : Node.Among tops target ∨ target.json.isObject = false := by
            refine (hinner.resolve hresolve).imp_right ?_
            rintro ⟨s, hs⟩
            rw [hs]
            rfl
          cases htarget : target.json.isObject with
          | false =>
            have hpositive : schema.json.size ≤ budget :=
              Nat.le_trans (Nat.le_add_left _ _) hbudget
            have hsize := beneath.size_lt
            obtain ⟨less, rfl⟩ : ∃ less, budget = less + 1 := ⟨budget - 1, by omega⟩
            exact answer_not_object htarget
          | true =>
            have hamong := hobject.resolve_right (by simp [htarget])
            have hroom := wanes.follow (hschema.inside beneath.inside) hamong htarget hnext
            exact ih (hinner.follow (wanes.options hnext) (wanes.root hnext)) hamong
              (Nat.lt_of_lt_of_le (rank_follow hamong (wanes.options hnext) hroom) hbudget)
    · intro h
      cases h

end Check

end JsonSchema
