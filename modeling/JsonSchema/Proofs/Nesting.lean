import JsonSchema.Proofs.InPlace
import JsonSchema.Session

/-! The scope of a session is that of the blocks it has entered and not left, whatever was
asked of it before and however that ended. -/
namespace JsonSchema

/-- The scope inside some blocks, given innermost first. -/
def Scope.nested (base : Options) (root : Node) (blocks : List Block) : Scope :=
  blocks.foldr (fun block scope => block.onto scope) (.start base root)

namespace Scope

variable {base : Options} {root : Node} (blocks : List Block)

@[simp] theorem nested_cons (block : Block) :
    nested base root (block :: blocks) = block.onto (nested base root blocks) := rfl

theorem nested_root : (nested base root blocks).root = root := by
  induction blocks with
  | nil => rfl
  | cons block rest ih => cases block <;> exact ih

theorem nested_inTrial : (nested base root blocks).inTrial = true ↔ Block.trial ∈ blocks := by
  induction blocks with
  | nil => simp [nested, start, inTrial]
  | cons block rest ih =>
    rw [List.mem_cons, ← ih]
    cases block with
    | trial => simp [Block.onto, trial, inTrial]
    | _ =>
      rw [or_iff_right (by simp)]
      exact Iff.rfl

/-- The references that are being followed, the outermost first. -/
theorem nested_chain :
    (nested base root blocks).chain = blocks.reverse.filterMap Block.link? := by
  induction blocks with
  | nil => rfl
  | cons block rest ih =>
    rw [List.reverse_cons, List.filterMap_append, ← ih]
    cases block <;> simp [Block.onto, Block.link?, withDefinitions, trial]

/-- The outermost table that binds a name is the one that counts. -/
theorem nested_lookup (name : String) :
    (nested base root blocks).options.definitions.lookup name =
      (base.definitions :: blocks.reverse.filterMap Block.definitions?).findSome?
        (·.lookup name) := by
  induction blocks with
  | nil => simp [nested, start]
  | cons block rest ih =>
    rw [List.reverse_cons, List.filterMap_append, ← List.cons_append, List.findSome?_append, ← ih]
    cases block with
    | definitions extra =>
      simp [Block.onto, Block.definitions?, withDefinitions, Options.withDefinitions]
    | trial => exact (Option.or_none).symm
    | reference link => exact (Option.or_none).symm

/-- Nothing but the definitions differs from the options at the start. -/
theorem nested_options :
    { (nested base root blocks).options with definitions := base.definitions } = base := by
  induction blocks with
  | nil => rfl
  | cons block rest ih => cases block <;> exact ih

end Scope

namespace Session

/-- What a request that was answered makes of the blocks entered before, innermost first. -/
def Request.blocks (before : List Block) : Request × Except Fault Reply → List Block
  | (.enter block, .ok _) => block :: before
  | (.leave, _) => before.tail
  | _ => before

/-- The blocks that have been entered and not been left, innermost first. -/
def blocksOf (answered : List (Request × Except Fault Reply)) : List Block :=
  answered.foldl Request.blocks []

/-- Every block remembers the options inside the blocks around it. -/
def Remembers (base : Options) (root : Node) : List Entered → Prop
  | [] => True
  | last :: rest =>
    last.before = (Scope.nested base root (rest.map (·.block))).options ∧
      Remembers base root rest

/-- A session whose scope is that of its blocks, and remains so when they are left. -/
structure Sound (base : Options) (root : Node) (session : Session) : Prop where
  scope : session.scope = .nested base root session.blocks
  remembers : Remembers base root session.entered

variable {α : Type} {base : Options} {root : Node} {session : Session} {heard : List Notice}

theorem start_sound (base : Options) (root : Node) : (start base root).Sound base root :=
  ⟨rfl, trivial⟩

theorem act_of_keeps {action : Action α} {check : Check α} {reply : α → Reply}
    (keeps : action.Keeps session.scope check) :
    session.act heard action reply =
      ((check.on heard).1.map reply, session, (check.on heard).2) := by
  unfold act
  rw [keeps heard]

theorem act_session {action : Action α} {check : Check α} {reply : α → Reply}
    (keeps : action.Keeps session.scope check) :
    (session.act heard action reply).2.1 = session := by
  rw [act_of_keeps keeps]

/-- What neither enters nor leaves a block. -/
def Request.Checks : Request → Prop
  | .enter _ | .leave => False
  | _ => True

/-- A check of any kind leaves the session as it was, however it ends. -/
theorem step_eq_of_checks (session : Session) (heard : List Notice) (request : Request)
    (checks : request.Checks) : (session.step heard request).2.1 = session := by
  cases request with
  | enter block => exact checks.elim
  | leave => exact checks.elim
  | resolve reference => exact act_session (Action.ofCheck_keeps _ _)
  | violate path kind details template => exact act_session (Action.ofCheck_keeps _ _)
  | descend schema value path =>
    exact act_session (Check.descendInPlace_keeps (enoughIn session.scope schema value)
      session.scope schema value path)

/-- A step that ends in a fault leaves the session as it was. -/
theorem step_eq_of_error {request : Request} {f : Fault}
    (h : (session.step heard request).1 = .error f) :
    (session.step heard request).2.1 = session := by
  cases request with
  | enter block =>
    rw [step] at h ⊢
    cases henter : block.enter session.scope with
    | error g => rfl
    | ok inner =>
      rw [henter] at h
      cases h
  | leave =>
    rw [step] at h
    split at h <;> cases h
  | _ => exact step_eq_of_checks session heard _ trivial

/-- What one step preserves. -/
theorem step_sound (sound : session.Sound base root) (heard : List Notice) (request : Request) :
    (session.step heard request).2.1.Sound base root ∧
      (session.step heard request).2.1.blocks =
        Request.blocks session.blocks (request, (session.step heard request).1) := by
  cases request with
  | enter block =>
    rw [step]
    cases henter : block.enter session.scope with
    | error f => exact ⟨sound, rfl⟩
    | ok inner =>
      refine ⟨⟨?_, congrArg Scope.options sound.scope, sound.remembers⟩, rfl⟩
      exact (Block.onto_of_enter henter).trans (congrArg (Block.onto · block) sound.scope)
  | leave =>
    rw [step]
    obtain ⟨scope, entered⟩ := session
    cases entered with
    | nil => exact ⟨sound, rfl⟩
    | cons last rest =>
      obtain ⟨hscope, hbefore, hrest⟩ := sound
      refine ⟨⟨?_, hrest⟩, rfl⟩
      have hinner : scope = last.block.onto (.nested base root (rest.map (·.block))) := hscope
      change last.block.leave last.before scope = .nested base root (rest.map (·.block))
      rw [hbefore, hinner, Block.leave_onto]
  | resolve reference =>
    rw [step_eq_of_checks session heard (.resolve reference) trivial]
    exact ⟨sound, rfl⟩
  | violate path kind details template =>
    rw [step_eq_of_checks session heard (.violate path kind details template) trivial]
    exact ⟨sound, rfl⟩
  | descend schema value path =>
    rw [step_eq_of_checks session heard (.descend schema value path) trivial]
    exact ⟨sound, rfl⟩

theorem run_sound (sound : session.Sound base root) (heard : List Notice)
    (requests : List Request) :
    (session.run heard requests).2.1.Sound base root ∧
      (session.run heard requests).2.1.blocks =
        (requests.zip (session.run heard requests).1).foldl Request.blocks session.blocks := by
  induction requests generalizing session heard with
  | nil => exact ⟨sound, rfl⟩
  | cons request rest ih =>
    obtain ⟨hsound, hblocks⟩ := step_sound sound heard request
    have hrest := ih hsound (session.step heard request).2.2
    rw [hblocks] at hrest
    exact hrest

/-- At all times the scope of a session is a function of the options and the root that it
started with and of the blocks that have been entered and not been left. A branch is being
tried out where one of them is a trial, the references being followed are theirs in order,
and a name is bound by the outermost table, that of the options first, that has it. A step
that ends in a fault changes nothing, nor does a check of a value, however it ends. -/
theorem run_discipline (base : Options) (root : Node) (heard : List Notice)
    (requests : List Request) :
    let (replies, session, after) := (start base root).run heard requests
    let blocks := blocksOf (requests.zip replies)
    session.scope = .nested base root blocks ∧
      (session.scope.inTrial = true ↔ Block.trial ∈ blocks) ∧
      session.scope.chain = blocks.reverse.filterMap Block.link? ∧
      (∀ name, session.scope.options.definitions.lookup name =
        (base.definitions :: blocks.reverse.filterMap Block.definitions?).findSome?
          (·.lookup name)) ∧
      { session.scope.options with definitions := base.definitions } = base ∧
      session.scope.root = root ∧
      ∀ request, (∃ f, (session.step after request).1 = .error f) ∨
          (∃ schema value path, request = .descend schema value path) →
        (session.step after request).2.1 = session := by
  obtain ⟨hsound, hblocks⟩ := run_sound (start_sound base root) heard requests
  rcases hrun : (start base root).run heard requests with ⟨replies, session, after⟩
  rw [hrun] at hsound hblocks
  dsimp only at hsound hblocks ⊢
  have hscope := hsound.scope
  rw [hblocks] at hscope
  change session.scope = .nested base root (blocksOf (requests.zip replies)) at hscope
  rw [hscope]
  refine ⟨rfl, Scope.nested_inTrial _, Scope.nested_chain _, Scope.nested_lookup _,
    Scope.nested_options _, Scope.nested_root _, ?_⟩
  rintro request (⟨f, herror⟩ | ⟨schema, value, path, rfl⟩)
  · exact step_eq_of_error herror
  · exact step_eq_of_checks session after _ trivial

theorem run_discipline_refused :
    let outer := Node.document .options (.obj [])
    let inner := Node.document .schema (.obj [])
    let link : Link := ⟨"A", outer, []⟩
    let (_, session, after) := (start .standard inner).run [] [
      .enter (.definitions [("A", outer)]), .enter .trial,
      .enter (.definitions [("A", inner), ("B", inner)]), .enter (.reference link),
      .enter (.reference link)]
    session.scope.inTrial = true ∧ session.scope.chain = [link] ∧
      session.scope.options.definitions.lookup "A" = some outer ∧
      session.scope.options.definitions.lookup "B" = some inner ∧
      (session.step after (.enter (.reference link))).2.1 = session := by
  intro outer inner link
  obtain ⟨_, htrial, hchain, hlookup, _, _, hsame⟩ := run_discipline .standard inner [] [
    .enter (.definitions [("A", outer)]), .enter .trial,
    .enter (.definitions [("A", inner), ("B", inner)]), .enter (.reference link),
    .enter (.reference link)]
  exact ⟨htrial.mpr (.tail _ (.tail _ (.head _))), hchain, hlookup "A", hlookup "B",
    hsame _ (.inl ⟨_, rfl⟩)⟩

end Session

end JsonSchema
