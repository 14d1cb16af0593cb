import JsonSchema.Proofs.Cycle
import JsonSchema.Proofs.Reach
import Mathlib.Data.List.TakeWhile

/-! The references that are being followed in a state of a run: no two are the same, each was
followed inside the one before it, and no deeper in the value than the next. So a cycle that a
run ends with leads from a reference back to itself, at one place. -/
namespace JsonSchema

namespace State

/-- A state that is about to follow a link, at its own place and inside the links of a chain. The
link leads to what its reference resolves to there. -/
structure Follows (state : State) (link : Link) (chain : List Link) : Prop where
  task : ∃ part, state.task = .plan (.follow link part)
  chain : state.scope.chain = chain
  path : link.path = state.path
  resolves : resolve? (.str link.reference) state.scope.options.definitions state.scope.root =
    .ok (some link.target)

theorem KeepsTo.follows {budget : Nat} {scope : Scope} {schema : Node} {value part : Json}
    {path : Path} {link : Link}
    (keeps : KeepsTo ⟨budget, scope, schema, value, path, .plan (.follow link part)⟩) :
    Follows ⟨budget, scope, schema, value, path, .plan (.follow link part)⟩ link scope.chain := by
  change Check.Refers scope.options scope.root schema value path link part at keeps
  cases keeps with
  | @ref ref target _ hresolve =>
    refine ⟨⟨_, rfl⟩, rfl, rfl, ?_⟩
    rw [← eq_str_of_resolve? hresolve]
    exact hresolve

/-- What holds of the links on the chain of a state that a run has come to. -/
structure Linked (start state : State) : Prop where
  distinct : state.scope.chain.Pairwise fun link later => link.isSame later = false
  nested : (state.scope.chain.map Link.path ++ [state.path]).Pairwise (· <+: ·)
  followed {before after : List Link} {link : Link} :
    state.scope.chain = before ++ link :: after →
      ∃ earlier, start.Reaches earlier ∧ earlier.Follows link before ∧ earlier.Reaches state

variable {start state after : State}

/-- A run that goes on with the same links, no less deep in the value. -/
theorem Linked.same (linked : Linked start state) (next : state.Next after)
    (chain : after.scope.chain = state.scope.chain) (deeper : state.path <+: after.path) :
    Linked start after where
  distinct := by
    rw [chain]
    exact linked.distinct
  nested := by
    rw [chain]
    have hnested := List.pairwise_append.mp linked.nested
    refine List.pairwise_append.mpr ⟨hnested.1, List.pairwise_singleton _ _, ?_⟩
    intro path hpath place hplace
    rw [List.mem_singleton.mp hplace]
    exact (hnested.2.2 path hpath state.path List.mem_cons_self).trans deeper
  followed h := by
    obtain ⟨earlier, hearlier, hfollows, hstate⟩ := linked.followed (chain.symm.trans h)
    exact ⟨earlier, hearlier, hfollows, hstate.tail next⟩

/-- A run that goes on inside one more link, which it follows from a state. -/
theorem Linked.one_more {link : Link} (linked : Linked start state) (reaches : start.Reaches state)
    (follows : state.Follows link state.scope.chain) (next : state.Next after)
    (fresh : state.scope.chain.any (·.isSame link) = false)
    (chain : after.scope.chain = state.scope.chain ++ [link]) (same : after.path = link.path) :
    Linked start after where
  distinct := by
    rw [chain]
    refine List.pairwise_append.mpr ⟨linked.distinct, List.pairwise_singleton _ _, ?_⟩
    intro other hother last hlast
    rw [List.mem_singleton.mp hlast, ← Bool.not_eq_true]
    exact List.any_eq_false.mp fresh other hother
  nested := by
    rw [chain, List.map_append, same, List.map_singleton, follows.path]
    refine List.pairwise_append.mpr ⟨linked.nested, List.pairwise_singleton _ _, ?_⟩
    have hnested := (List.pairwise_append.mp linked.nested).2.2
    intro path hpath place hplace
    rw [List.mem_singleton.mp hplace]
    rcases List.mem_append.mp hpath with hold | hnew
    · exact hnested path hold state.path List.mem_cons_self
    · exact (List.mem_singleton.mp hnew) ▸ List.prefix_refl _
  followed {before rest other} h := by
    rw [chain] at h
    rcases List.eq_nil_or_concat rest with rfl | ⟨init, last, rfl⟩
    · obtain ⟨rfl, hlink⟩ := List.append_inj' h rfl
      cases hlink
      exact ⟨state, reaches, follows, .single next⟩
    · rw [List.concat_eq_append, ← List.cons_append, ← List.append_assoc] at h
      obtain ⟨hchain, _⟩ := List.append_inj' h rfl
      obtain ⟨earlier, hearlier, hfollows, hstate⟩ := linked.followed hchain
      exact ⟨earlier, hearlier, hfollows, hstate.tail next⟩

theorem Linked.next (linked : Linked start state) (reaches : start.Reaches state)
    (keeps : state.KeepsTo) (next : state.Next after) : Linked start after := by
  have hnext := next
  cases next with
  | opens | first | second | branch | after => exact linked.same hnext rfl (List.prefix_refl _)
  | @enter _ scope schema node value part path place =>
    change Check.Leads scope.options schema value path node part place at keeps
    cases keeps with
    | here => exact linked.same hnext rfl (List.prefix_refl _)
    | part step => exact linked.same hnext rfl (List.prefix_append _ [step])
  | follow hfollow =>
    obtain ⟨hfresh, rfl⟩ := Scope.follow_ok hfollow
    exact linked.one_more reaches keeps.follows hnext hfresh rfl rfl

theorem linked_of_reaches {schema value : Json} {options : Options} {state : State}
    (reaches : (root schema value options).Reaches state) :
    Linked (root schema value options) state := by
  induction reaches with
  | refl =>
    exact ⟨.nil, List.pairwise_singleton _ _, fun h => absurd h.symm (by simp [root, Scope.start])⟩
  | tail reaches next ih => exact ih.next reaches (keepsTo_of_reaches reaches) next

/-- A link at the place of a state is as deep as the state, and so are those inside it. -/
theorem Linked.path_eq {before loop : List Link} {link : Link} (linked : Linked start state)
    (chain : state.scope.chain = before ++ link :: loop) (same : link.path = state.path) :
    ∀ other ∈ loop, other.path = state.path := by
  have hnested := linked.nested
  rw [chain, List.map_append, List.append_assoc, List.map_cons, List.cons_append] at hnested
  have hinner := List.pairwise_cons.mp (List.pairwise_append.mp hnested).2.1
  intro other hother
  have hmem : other.path ∈ loop.map Link.path := List.mem_map_of_mem hother
  have hbelow := hinner.1 other.path (List.mem_append_left _ hmem)
  have habove := (List.pairwise_append.mp hinner.2).2.2 other.path hmem state.path
    List.mem_cons_self
  rw [same] at hbelow
  exact habove.eq_of_length (Nat.le_antisymm habove.length_le hbelow.length_le)

end State

/-- The names of a refused cycle are those of the links from the one that is the same on, and of
the link itself. -/
theorem Scope.follow_cycle {scope : Scope} {link : Link} {references : List String}
    {context : Option String}
    (h : scope.follow link = .error (.refused (.cycle references) context)) :
    ∃ before first loop, scope.chain = before ++ first :: loop ∧ first.isSame link = true ∧
      references = (first :: loop ++ [link]).map (·.reference) ∧ context = some link.path.text := by
  unfold follow at h
  split at h
  · rename_i hany
    cases h
    obtain ⟨other, hother, hsame⟩ := List.any_eq_true.mp hany
    have hsplit := List.takeWhile_append_dropWhile (p := (!·.isSame link)) (l := scope.chain)
    cases hdrop : scope.chain.dropWhile (!·.isSame link) with
    | nil =>
      have hnone := List.dropWhile_eq_nil_iff.mp hdrop other hother
      rw [hsame] at hnone
      cases hnone
    | cons first loop =>
      have hfirst := List.head_dropWhile_not (!·.isSame link) (l := scope.chain) (by simp [hdrop])
      refine ⟨scope.chain.takeWhile (!·.isSame link), first, loop, ?_, ?_, ?_, rfl⟩
      · rw [← hdrop, hsplit]
      · simpa [hdrop] using hfirst
      · rw [loopNames, hdrop, List.map_append, List.map_singleton]
  · cases h

/-- Links that are the same have one name and one place. -/
theorem Link.eq_of_isSame {link other : Link} (h : link.isSame other = true) :
    link.reference = other.reference ∧ link.path = other.path := by
  rw [isSame, Bool.and_eq_true, Bool.and_eq_true, beq_iff_eq, beq_iff_eq] at h
  exact ⟨h.1.1, h.2⟩

/-- The links of a chain and the one that closes a cycle are followed each inside the one
before. -/
structure State.Closes (start : State) (references : List String) (context : Option String)
    (before loop : List Link) (link : Link) : Prop where
  names : references = (loop ++ [link]).map (·.reference)
  two : 2 ≤ references.length
  closed : references.head? = references.getLast?
  context : context = some link.path.text
  place : ∀ other ∈ loop, other.path = link.path
  inside {earlier later : List Link} {outer inner : Link} :
    loop ++ [link] = earlier ++ outer :: inner :: later →
      ∃ following within, start.Reaches following ∧
        following.Follows outer (before ++ earlier) ∧ following.Reaches within ∧
        within.Follows inner (before ++ earlier ++ [outer])

namespace State

variable {schema value : Json} {options : Options} {state within : State}

/-- The last link of a chain was followed outside of what is followed inside it. -/
theorem Follows.outer {front : List Link} {outer inner : Link}
    (reaches : (root schema value options).Reaches within)
    (follows : within.Follows inner (front ++ [outer])) :
    ∃ following, (root schema value options).Reaches following ∧ following.Follows outer front ∧
      following.Reaches within :=
  (linked_of_reaches reaches).followed follows.chain

theorem closes_of_refused {part : Json} {link : Link} {references : List String}
    {context : Option String} (reaches : (root schema value options).Reaches state)
    (task : state.task = .plan (.follow link part))
    (refused : state.scope.follow link = .error (.refused (.cycle references) context)) :
    ∃ before loop, (root schema value options).Closes references context before loop link := by
  have linked := linked_of_reaches reaches
  have follows : state.Follows link state.scope.chain := by
    obtain ⟨budget, scope, node, own, path, _⟩ := state
    cases task
    exact (keepsTo_of_reaches reaches).follows
  obtain ⟨before, first, loop, hchain, hsame, hreferences, hcontext⟩ := Scope.follow_cycle refused
  obtain ⟨hname, hpath⟩ := Link.eq_of_isSame hsame
  have hplace : ∀ other ∈ first :: loop, other.path = link.path :=
    List.forall_mem_cons.mpr ⟨hpath, fun other hother =>
      (linked.path_eq hchain (hpath.trans follows.path) other hother).trans follows.path.symm⟩
  refine ⟨before, first :: loop, hreferences, ?_, ?_, hcontext, hplace, ?_⟩
  · rw [hreferences]
    simp
  · rw [hreferences, List.map_append, List.map_singleton, List.getLast?_concat, List.map_cons,
      List.cons_append, List.head?_cons, hname]
  · intro earlier later outer inner h
    rcases List.eq_nil_or_concat later with rfl | ⟨init, last, rfl⟩
    · -- The inner link is the one that is refused, in the state itself.
      have hsplit : first :: loop ++ [link] = (earlier ++ [outer]) ++ [inner] := by simpa using h
      obtain ⟨hloop, hlast⟩ := List.append_inj' hsplit rfl
      cases hlast
      have hinner : state.Follows link (before ++ earlier ++ [outer]) := by
        rw [List.append_assoc, ← hloop, ← hchain]
        exact follows
      obtain ⟨following, hreaches, hfollows, hstate⟩ := hinner.outer reaches
      exact ⟨following, state, hreaches, hfollows, hstate, hinner⟩
    · have hsplit : first :: loop ++ [link] = (earlier ++ outer :: inner :: init) ++ [last] := by
        simpa using h
      obtain ⟨hloop, _⟩ := List.append_inj' hsplit rfl
      have hwhole : state.scope.chain = (before ++ earlier ++ [outer]) ++ inner :: init := by
        rw [hchain, hloop]
        simp
      obtain ⟨within, hwithin, hinner, _⟩ := linked.followed hwhole
      obtain ⟨following, hreaches, hfollows, hstate⟩ := hinner.outer hwithin
      exact ⟨following, within, hreaches, hfollows, hstate, hinner⟩

/-- Only a reference is refused as circular. -/
theorem closes_of_raises {references : List String} {context : Option String}
    (reaches : (root schema value options).Reaches state)
    (raises : state.Raises (.refused (.cycle references) context)) :
    ∃ before loop link, (root schema value options).Closes references context before loop link := by
  cases raises with
  | @fault budget scope node own path =>
    have fails : Check.Fails scope.options scope.root node own
      (.refused (.cycle references) context) := keepsTo_of_reaches reaches
    exact absurd trivial fails.not_ofRun
  | follow refused =>
    obtain ⟨before, loop, closes⟩ := closes_of_refused reaches rfl refused
    exact ⟨before, loop, _, closes⟩

end State

/-- In every state of a validation the links on the chain are no two the same, each leads to what
its reference resolved to when it was followed inside those before it, and their places lead one
to the next and on to that of the state. A cycle that the validation ends with is made of such
links: there are two or more, the last has the name of the first, all were followed at the place
that is the context, each inside the one before. -/
theorem validate_chains (schema value : Json) (given : Given) (heard : List Notice) :
    (∀ options state, opening? schema given = .ok (some options) →
      (State.root schema value options).Reaches state →
        (State.root schema value options).Linked state) ∧
    ∀ references context, ((validate schema value given).on heard).1 =
      .error (.refused (.cycle references) context) →
        ∃ options before loop link, opening? schema given = .ok (some options) ∧
          (State.root schema value options).Closes references context before loop link := by
  refine ⟨fun options state _ reaches => State.linked_of_reaches reaches, ?_⟩
  intro references context h
  rcases State.raised_of_validate h (fun message => nofun) with
    hopening | ⟨options, state, hopening, reaches, raises⟩
  · exact absurd trivial (opening?_error hopening)
  · obtain ⟨before, loop, link, closes⟩ := State.closes_of_raises reaches raises
    exact ⟨options, before, loop, link, hopening, closes⟩

theorem validate_chains_indirect :
    let schema := Json.obj [("definitions", .obj [
        ("A", .obj [("items", .obj [("$ref", .str "B")])]),
        ("B", .obj [("anyOf", .arr [.obj [("$ref", .str "C")]])]),
        ("C", .obj [("$ref", .str "B")])]),
      ("$ref", .str "A")]
    let value := Json.arr [.int 1]
    ((validate schema value .absent).on []).1 =
        .error (.refused (.cycle ["B", "C", "B"]) (some "[0]")) ∧
      ∃ options before loop link, opening? schema .absent = .ok (some options) ∧
        (State.root schema value options).Linked (State.root schema value options) ∧
        (State.root schema value options).Closes ["B", "C", "B"] (some "[0]") before loop link := by
  intro schema value
  have hcycle : ((validate schema value .absent).on []).1 =
    .error (.refused (.cycle ["B", "C", "B"]) (some "[0]")) := by rfl
  obtain ⟨hlinked, hcloses⟩ := validate_chains schema value .absent []
  obtain ⟨options, before, loop, link, hopening, closes⟩ := hcloses _ _ hcycle
  exact ⟨hcycle, options, before, loop, link, hopening, hlinked options _ hopening .refl, closes⟩

end JsonSchema
