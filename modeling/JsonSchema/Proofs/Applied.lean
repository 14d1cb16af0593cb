import JsonSchema.Proofs.Termination
import JsonSchema.Proofs.Visits

/-! The nodes that are applied as schemas, whatever the value: those that some check of some
value can come to. All of them stand inside the schema, the definitions or what the options
say about additional parts. -/
namespace JsonSchema

/-- The nodes that a plan goes on with, whichever of its branches pass. -/
inductive Plan.Uses : Plan → Node → Prop
  | enter (schema : Node) (value : Json) (path : Path) : Uses (.enter schema value path) schema
  | follow (link : Link) (value : Json) : Uses (.follow link value) link.target
  | first {first second : Plan} {node : Node} : first.Uses node → Uses (.both first second) node
  | second {first second : Plan} {node : Node} : second.Uses node →
      Uses (.both first second) node
  | branch {branch : Plan} {next : Bool → Plan} {node : Node} : branch.Uses node →
      Uses (.probe branch next) node
  | next {branch : Plan} {next : Bool → Plan} {node : Node} (passes : Bool) :
      (next passes).Uses node → Uses (.probe branch next) node

/-- The nodes that are applied as schemas where a node is, with the definitions on the way in
force. -/
inductive Check.Applied (root : Node) : Options → Node → Node → Prop
  | self (options : Options) (schema : Node) : Applied root options schema schema
  | onward {options : Options} {schema node inner : Node} (value : Json) (path : Path) :
      (Check.node (options.withDefinitions (declared schema)) root schema value path).Uses node →
      Applied root (options.withDefinitions (declared schema)) node inner →
      Applied root options schema inner

namespace Plan

variable {answers : Answers} {visits : Visits} {tried : Bool} {scope : Scope}

/-- What a plan comes to, it comes to through a node that it goes on with. -/
theorem mem_visits {plan : Plan} {visit : Visit}
    (h : visit ∈ plan.visits answers visits tried scope) :
    ∃ (tried : Bool) (inner : Scope) (node : Node) (value : Json) (path : Path),
      inner.options = scope.options ∧ inner.root = scope.root ∧ plan.Uses node ∧
        visit ∈ visits tried inner node value path := by
  induction plan generalizing tried with
  | clean => cases h
  | fault f => cases h
  | report schema value path finding => cases h
  | both first second ihFirst ihSecond =>
    rcases List.mem_append.mp h with h | h
    · obtain ⟨tried, inner, node, value, path, hoptions, hroot, huses, hvisit⟩ := ihFirst h
      exact ⟨tried, inner, node, value, path, hoptions, hroot, .first huses, hvisit⟩
    · obtain ⟨tried, inner, node, value, path, hoptions, hroot, huses, hvisit⟩ := ihSecond h
      exact ⟨tried, inner, node, value, path, hoptions, hroot, .second huses, hvisit⟩
  | enter schema value path =>
    exact ⟨tried, scope, schema, value, path, rfl, rfl, .enter schema value path, h⟩
  | follow link value =>
    rw [Plan.visits] at h
    cases hfollow : scope.follow link with
    | error f =>
      rw [hfollow] at h
      cases h
    | ok inner =>
      rw [hfollow] at h
      obtain ⟨_, hinner⟩ := Scope.follow_ok hfollow
      have hoptions : inner.options = scope.options := by rw [hinner]
      have hroot : inner.root = scope.root := by rw [hinner]
      exact ⟨tried, inner, link.target, value, link.path, hoptions, hroot, .follow link value, h⟩
  | probe branch next ihBranch ihNext =>
    rw [Plan.visits] at h
    split at h
    · rename_i found _
      rcases List.mem_append.mp h with h | h
      · obtain ⟨tried, inner, node, value, path, hoptions, hroot, huses, hvisit⟩ := ihBranch h
        exact ⟨tried, inner, node, value, path, hoptions, hroot, .branch huses, hvisit⟩
      · obtain ⟨tried, inner, node, value, path, hoptions, hroot, huses, hvisit⟩ :=
          ihNext found.isEmpty h
        exact ⟨tried, inner, node, value, path, hoptions, hroot, .next _ huses, hvisit⟩
    · cases h

/-- A node that a plan goes on with is one that it enters or the target of its reference. -/
theorem Uses.of_every {fails : Fault → Prop} {enters : Node → Json → Path → Prop}
    {follows : Link → Json → Prop} {plan : Plan} {node : Node} (uses : plan.Uses node)
    (every : plan.Every fails enters follows) :
    (∃ value path, enters node value path) ∨
      ∃ link value, follows link value ∧ link.target = node := by
  induction uses with
  | enter schema value path => exact .inl ⟨value, path, every⟩
  | follow link value => exact .inr ⟨link, value, every, rfl⟩
  | first _ ih => exact ih every.1
  | second _ ih => exact ih every.2
  | branch _ ih => exact ih every.1
  | next passes _ ih => exact ih (every.2 passes)

end Plan

namespace Check

/-- All nodes that a run comes to are applied as schemas. -/
theorem visits_applied {budget : Nat} {tried : Bool} {scope : Scope} {schema : Node}
    {value : Json} {path : Path} {visit : Visit}
    (h : visit ∈ visits budget tried scope schema value path) :
    Applied scope.root scope.options schema visit.schema := by
  induction budget generalizing tried scope schema value path with
  | zero => cases h
  | succ budget ih =>
    rcases List.mem_cons.mp h with rfl | h
    · exact .self scope.options schema
    · obtain ⟨tried, inner, node, part, place, hoptions, hroot, huses, hvisit⟩ :=
        Plan.mem_visits h
      have hbelow := ih hvisit
      rw [hoptions, hroot] at hbelow
      exact .onward value path huses hbelow

/-- A text is no schema, and its check goes on with nothing. -/
theorem not_uses_of_str {options : Options} {root schema node : Node} {value : Json} {path : Path}
    {s : String} (hjson : schema.json = .str s) :
    ¬ (Check.node options root schema value path).Uses node := by
  intro h
  rw [Check.node, hjson] at h
  cases h

/-- A node goes on with nodes inside those that all schemas come from, and with texts that a pointer
made on the way. -/
theorem uses_among {tops : List Node} {scope : Scope} (among : scope.Among tops)
    {schema inner : Node} (hschema : Node.Among tops schema ∨ ∃ s, schema.json = .str s)
    {value : Json} {path : Path}
    (uses : (node scope.options scope.root schema value path).Uses inner) :
    Node.Among tops inner ∨ ∃ s, inner.json = .str s := by
  rcases hschema with hschema | ⟨s, htext⟩
  · rcases uses.of_every node_every with ⟨part, place, hleads⟩ | ⟨link, part, hrefers, rfl⟩
    · cases hleads with
      | here beneath => exact .inl (hschema.inside beneath.inside)
      | part step hnode _ => exact .inl (among.part hschema hnode)
    · cases hrefers with
      | ref _ hresolve => exact among.resolve hresolve
  · exact absurd uses (not_uses_of_str htext)

/-- Whatever is applied as a schema stands inside one of the nodes that all schemas come from,
or is a text that a pointer made on the way. -/
theorem Applied.among {tops : List Node} {root schema node : Node} {options : Options}
    (applied : Applied root options schema node) (among : (Scope.start options root).Among tops)
    (hschema : Node.Among tops schema ∨ ∃ s, schema.json = .str s) :
    Node.Among tops node ∨ ∃ s, node.json = .str s := by
  induction applied with
  | self => exact hschema
  | @onward options schema node inner value path huses _ ih =>
    rcases hschema with hschema | ⟨s, htext⟩
    · have hinner : (Scope.start (options.withDefinitions (declared schema)) root).Among tops :=
        among.declare (Guard.chain_wanes tops) hschema
      exact ih hinner (uses_among hinner (.inl hschema) huses)
    · exact absurd huses (not_uses_of_str htext)

/-- What holds of all nodes in the schema, the definitions and the options, and of texts, holds
of every node that is applied. -/
theorem Applied.holds {holds : Node → Bool} {root node : Node} {options : Options}
    (all : (Node.space (Scope.start options root).tops).all holds)
    (text : ∀ (node : Node) (s : String), node.json = .str s → holds node)
    (applied : Applied root options root node) : holds node := by
  have among := (Scope.start options root).among_tops
  rcases applied.among among (.inl among.root) with hamong | ⟨s, htext⟩
  · exact List.all_eq_true.mp all node hamong.mem_space
  · exact text node s htext

/-- No node that is applied has a member of a name if there is no such member anywhere in the
schema, the definitions and the options. -/
theorem Applied.member?_eq_none {keyword : String} {root node : Node} {options : Options}
    (absent : (Node.space (Scope.start options root).tops).all fun inner =>
      (inner.member? keyword).isNone)
    (applied : Applied root options root node) : node.member? keyword = none := by
  refine Option.isNone_iff_eq_none.mp (applied.holds absent fun node s htext => ?_)
  rw [Node.member?, htext]
  rfl

end Check

/-- The nodes that the validations of all values with a schema and options apply. -/
def Given.Applies (given : Given) (schema : Json) (node : Node) : Prop :=
  ∃ opened, opening? schema given = .ok (some opened) ∧
    Check.Applied (.document .schema schema) opened (.document .schema schema) node

theorem visited_applies {schema value : Json} {given : Given} {visit : Visit}
    (h : visit ∈ visited schema value given) : given.Applies schema visit.schema := by
  unfold visited at h
  split at h
  · exact ⟨_, ‹_›, Check.visits_applied h⟩
  · cases h

end JsonSchema
