import JsonSchema.Proofs.Counterpart

/-! Runs that are in step all the way down. Where the plans of paired nodes go together and go
on with what is paired again, the checks of both nodes end alike. -/
namespace JsonSchema

/-- References of one name that are followed at one place, to paired targets. -/
structure Link.Paired (nodes : Node → Node → Prop) (link link' : Link) : Prop where
  reference : link'.reference = link.reference
  target : nodes link.target link'.target
  path : link'.path = link.path

/-- Runs in which the same nodes are paired at every place. -/
def Pairing.everywhere (view : View) (nodes : Node → Node → Prop) (values : Json → Json → Prop) :
    Pairing where
  view := view
  nodes _ := nodes
  values := values
  links := Link.Paired nodes

theorem Definitions.extend_paired {nodes : Node → Node → Prop}
    {table table' extra extra' : Definitions} (h : List.Forall₂ (JsonSchema.Paired nodes) table table')
    (hextra : List.Forall₂ (JsonSchema.Paired nodes) extra extra') :
    List.Forall₂ (JsonSchema.Paired nodes) (table.extend extra) (table'.extend extra') := by
  refine List.rel_append h (List.rel_filter (fun entry entry' hentry => ?_) hextra)
  have hlookup := JsonSchema.Paired.lookup h entry.1
  obtain ⟨name, node⟩ := entry
  obtain ⟨_, node'⟩ := entry'
  obtain ⟨rfl, _⟩ := hentry
  dsimp only at hlookup ⊢
  generalize table.lookup _ = found at hlookup
  generalize table'.lookup _ = found' at hlookup
  cases hlookup <;> exact Iff.rfl

namespace Scope

variable {nodes : Node → Node → Prop}

section

variable (isSame : ∀ {a a' b b' : Node}, nodes a a' → nodes b b' → a'.isSame b' = a.isSame b)
include isSame

theorem isSame_paired {a a' b b' : Link} (ha : a.Paired nodes a') (hb : b.Paired nodes b') :
    a'.isSame b' = a.isSame b := by
  rw [Link.isSame, Link.isSame, ha.reference, hb.reference, ha.path, hb.path,
    isSame ha.target hb.target]

theorem any_isSame_paired {chain chain' : List Link}
    (h : List.Forall₂ (Link.Paired nodes) chain chain') {link link' : Link}
    (hlink : link.Paired nodes link') :
    chain'.any (·.isSame link') = chain.any (·.isSame link) := by
  induction h with
  | nil => rfl
  | cons hother _ ih => rw [List.any_cons, List.any_cons, isSame_paired isSame hother hlink, ih]

theorem loopNames_paired {chain chain' : List Link}
    (h : List.Forall₂ (Link.Paired nodes) chain chain') {link link' : Link}
    (hlink : link.Paired nodes link') : loopNames link' chain' = loopNames link chain := by
  unfold loopNames
  induction h with
  | nil => rfl
  | cons hother hrest ih =>
    rw [List.dropWhile_cons, List.dropWhile_cons, isSame_paired isSame hother hlink]
    split
    · exact ih
    · rw [← List.forall₂_eq_eq_eq, List.forall₂_map_left_iff, List.forall₂_map_right_iff]
      exact (List.Forall₂.cons hother hrest).flip.imp fun _ _ h => h.reference

end

/-- Scopes of which the definitions in force and the references that are being followed are
paired, and all else but the root is the same. -/
structure Paired (nodes : Node → Node → Prop) (scope scope' : Scope) : Prop where
  definitions : List.Forall₂ (JsonSchema.Paired nodes) scope.options.definitions
    scope'.options.definitions
  options : scope'.options = { scope.options with definitions := scope'.options.definitions }
  trials : scope'.trials = scope.trials
  chain : List.Forall₂ (Link.Paired nodes) scope.chain scope'.chain

namespace Paired

variable {scope scope' : Scope} (h : scope.Paired nodes scope')
include h

theorem declare {extra extra' : Definitions}
    (hextra : List.Forall₂ (JsonSchema.Paired nodes) extra extra') :
    (scope.withDefinitions extra).Paired nodes (scope'.withDefinitions extra') where
  definitions := Definitions.extend_paired h.definitions hextra
  options := by
    unfold withDefinitions Options.withDefinitions
    rw [h.options]
  trials := h.trials
  chain := h.chain

theorem trial : scope.trial.Paired nodes scope'.trial :=
  { h with trials := congrArg (· + 1) h.trials }

theorem hook_eq : scope'.options.hook = scope.options.hook := by
  rw [h.options]

theorem maxDepth_eq : scope'.options.maxDepth = scope.options.maxDepth := by
  rw [h.options]

/-- A reference is refused in both scopes or followed in both. -/
theorem follow (isSame : ∀ {a a' b b' : Node}, nodes a a' → nodes b b' → a'.isSame b' = a.isSame b)
    {link link' : Link} (hlink : link.Paired nodes link') :
    (∃ f, scope.follow link = .error f ∧ scope'.follow link' = .error f) ∨
      ∃ next next', scope.follow link = .ok next ∧ scope'.follow link' = .ok next' ∧
        next.Paired nodes next' := by
  unfold Scope.follow
  rw [any_isSame_paired isSame h.chain hlink, loopNames_paired isSame h.chain hlink,
    hlink.reference, hlink.path]
  split
  · exact .inl ⟨_, rfl, rfl⟩
  · exact .inr ⟨_, _, rfl, rfl, { h with chain := List.rel_append h.chain (.cons hlink .nil) }⟩

end Paired

end Scope

namespace Check

/-- What keeps two runs in step: alike scopes in which paired references are refused or followed
alike, and paired nodes, of those that apply, with plans that go together. Which nodes apply
depends on the options and the root in force. -/
structure Lockstep (pairing : Pairing) (alike : Scope → Scope → Prop)
    (applies : Options → Node → Node → Prop) : Prop where
  hook {scope scope'} : alike scope scope' → scope'.options.hook = scope.options.hook
  bounds {scope scope'} : alike scope scope' → pairing.view.Bounds scope.options.hook
  maxDepth {scope scope'} : alike scope scope' → scope'.options.maxDepth = scope.options.maxDepth
  trials {scope scope'} : alike scope scope' → scope'.trials = scope.trials
  trial {scope scope'} : alike scope scope' → alike scope.trial scope'.trial
  target {link link'} : pairing.links link link' →
    link'.path = link.path ∧ pairing.nodes link.path link.target link'.target
  follow {scope scope' link link'} : alike scope scope' → pairing.links link link' →
    (∃ f, scope.follow link = .error f ∧ scope'.follow link' = .error f) ∨
      ∃ next next', scope.follow link = .ok next ∧ scope'.follow link' = .ok next' ∧ alike next next'
  declare {scope scope' schema schema' path} : alike scope scope' →
    pairing.nodes path schema schema' →
    alike (scope.withDefinitions (declared schema)) (scope'.withDefinitions (declared schema'))
  plans {scope scope' schema schema' value value' path} : alike scope scope' →
    pairing.nodes path schema schema' → applies scope.options scope.root schema →
    pairing.values value value' →
    let inner := scope.withDefinitions (declared schema)
    let inner' := scope'.withDefinitions (declared schema')
    Plan.Parallels (pairing.among (applies inner.options inner.root))
      (node inner.options inner.root schema value path)
      (node inner'.options inner'.root schema' value' path)

namespace Lockstep

variable {pairing : Pairing} {alike : Scope → Scope → Prop}
  {applies : Options → Node → Node → Prop}

/-- Runs in one scope are in step if they follow the same references, declare the same, and have
plans that go together, where the options fit. -/
theorem of_same (fits : Options → Prop)
    (bounds : ∀ {options}, fits options → pairing.view.Bounds options.hook)
    (links : ∀ {link link'}, pairing.links link link' → link' = link)
    (target : ∀ {link}, pairing.links link link → pairing.nodes link.path link.target link.target)
    (declares : ∀ {path schema schema'}, pairing.nodes path schema schema' →
      declared schema' = declared schema)
    (extends_to : ∀ {options} extra, fits options → fits (options.withDefinitions extra))
    (plans : ∀ {options root schema schema' value value' path},
      fits (options.withDefinitions (declared schema)) → pairing.nodes path schema schema' →
      applies options root schema → pairing.values value value' →
      let inner := options.withDefinitions (declared schema)
      Plan.Parallels (pairing.among (applies inner root)) (node inner root schema value path)
        (node inner root schema' value' path)) :
    Lockstep pairing (fun scope scope' => scope' = scope ∧ fits scope.options) applies := by
  constructor
  case hook => exact fun ⟨same, _⟩ => by rw [same]
  case bounds => exact fun ⟨_, hfits⟩ => bounds hfits
  case maxDepth => exact fun ⟨same, _⟩ => by rw [same]
  case trials => exact fun ⟨same, _⟩ => by rw [same]
  case trial => exact fun ⟨same, hfits⟩ => ⟨by rw [same], hfits⟩
  case target =>
    intro link link' hlink
    cases links hlink
    exact ⟨rfl, target hlink⟩
  case follow =>
    rintro _ scope link link' ⟨rfl, hfits⟩ hlink
    cases links hlink
    cases hfollow : scope.follow link with
    | error f => exact .inl ⟨f, rfl, rfl⟩
    | ok next =>
      obtain ⟨_, rfl⟩ := Scope.follow_ok hfollow
      exact .inr ⟨_, _, rfl, rfl, rfl, hfits⟩
  case declare =>
    rintro _ scope schema schema' path ⟨rfl, hfits⟩ hschema
    exact ⟨by rw [declares hschema], extends_to (declared schema) hfits⟩
  case plans =>
    rintro _ scope schema schema' value value' path ⟨rfl, hfits⟩ hschema happlies hvalue
    dsimp only
    rw [declares hschema]
    exact plans (extends_to (declared schema) hfits) hschema happlies hvalue

variable (h : Lockstep pairing alike applies)
include h

/-- Runs in step from below remain so above, in the scopes of some plan. -/
theorem keeps (inner : Scope) {descend descend' : Descent}
    (below : ∀ {next next' : Scope} {node node' : Node} {part part' : Json} {place : Path},
      alike next next' → next.options = inner.options → next.root = inner.root →
      pairing.nodes place node node' → applies inner.options inner.root node →
      pairing.values part part' →
      Parallels pairing.view (descend next node part place) (descend' next' node' part' place)) :
    (pairing.among (applies inner.options inner.root)).Keeps (fun scope scope' =>
      alike scope scope' ∧ scope.options = inner.options ∧ scope.root = inner.root)
      .chain .chain descend descend' := by
  constructor
  case hook => exact fun ⟨like, _, _⟩ => h.hook like
  case bounds => exact fun ⟨like, _, _⟩ => h.bounds like
  case trials => exact fun ⟨like, _, _⟩ => h.trials like
  case trial => exact fun ⟨like, hoptions, hroot⟩ => ⟨h.trial like, hoptions, hroot⟩
  case enter =>
    rintro next next' node node' part part' place ⟨like, hoptions, hroot⟩ ⟨hnode, happlies⟩ hpart
    exact below like hoptions hroot hnode happlies hpart
  case follow =>
    rintro next next' link link' part part' ⟨like, hoptions, hroot⟩ ⟨hlink, happlies⟩ hpart
    intro heard heard' same ends
    obtain ⟨hpath, htarget⟩ := h.target hlink
    rw [Plan.on_run_follow] at ends ⊢
    rw [Plan.on_run_follow]
    rcases h.follow like hlink with
      ⟨f, hfollow, hfollow'⟩ | ⟨onward, onward', hfollow, hfollow', honward⟩
    · rw [show Guard.chain.follow next link = _ from hfollow,
        show Guard.chain.follow next' link' = _ from hfollow']
      exact ⟨.failed f, same⟩
    · rw [show Guard.chain.follow next link = _ from hfollow] at ends ⊢
      rw [show Guard.chain.follow next' link' = _ from hfollow', hpath]
      obtain ⟨_, hnext⟩ := Scope.follow_ok hfollow
      refine below honward ?_ ?_ htarget happlies hpart heard heard' same ends
      · rw [hnext, hoptions]
      · rw [hnext, hroot]

/-- By induction on the budget: the checks of paired nodes are in step. -/
theorem descend {budget budget' : Nat} (le : budget ≤ budget') {scope scope' : Scope}
    (like : alike scope scope') {schema schema' : Node} {path : Path}
    (hschema : pairing.nodes path schema schema') (happlies : applies scope.options scope.root schema)
    {value value' : Json} (hvalue : pairing.values value value') :
    Parallels pairing.view (Check.descend .chain budget scope schema value path)
      (Check.descend .chain budget' scope' schema' value' path) := by
  induction budget generalizing budget' scope scope' schema schema' value value' path with
  | zero =>
    intro heard heard' _ ends
    exact absurd rfl (ends _ rfl)
  | succ budget ih =>
    obtain ⟨larger, rfl⟩ : ∃ larger, budget' = larger + 1 := ⟨budget' - 1, by omega⟩
    unfold Check.descend
    rw [h.maxDepth like]
    rcases Options.exceeds path.length scope.options.maxDepth with _ | _ | _
    · exact throw_parallels _ _
    · let inner := scope.withDefinitions (declared schema)
      refine Plan.run_parallels (h.keeps inner ?_) (h.plans like hschema happlies hvalue)
        ⟨h.declare like hschema, rfl, rfl⟩
      intro next next' below below' part part' place hnext hoptions hroot hbelow huses hpart
      refine ih (by omega) hnext hbelow ?_ hpart
      rw [hoptions, hroot]
      exact huses
    · exact throw_parallels _ _

/-- Plans that go together are gone through in step. -/
theorem run {budget budget' : Nat} (le : budget ≤ budget') {scope scope' : Scope}
    (like : alike scope scope') {plan plan' : Plan}
    (plans : Plan.Parallels (pairing.among (applies scope.options scope.root)) plan plan') :
    Parallels pairing.view (plan.run .chain (Check.descend .chain budget) scope)
      (plan'.run .chain (Check.descend .chain budget') scope') := by
  refine Plan.run_parallels (h.keeps scope ?_) plans ⟨like, rfl, rfl⟩
  intro next next' below below' part part' place hnext hoptions hroot hbelow huses hpart
  refine h.descend le hnext hbelow ?_ hpart
  rw [hoptions, hroot]
  exact huses

end Lockstep

end Check

end JsonSchema
