import JsonSchema.Proofs.Opening
import JsonSchema.Proofs.Rank

/-! Two other guards. One refuses nothing, so that a run may go on forever. The other forgets
what has been followed whenever a name is bound, and refuses a reference only where it was
followed with the same definitions in force. -/
namespace JsonSchema

/-- No reference is refused. -/
def Guard.unguarded : Guard :=
  ⟨fun scope link => .ok { scope with chain := scope.chain ++ [link] }, Scope.withDefinitions⟩

namespace Scope

/-- Whether a reference has been followed at the same place. -/
def hasFollowed (scope : Scope) (link : Link) : Bool :=
  scope.chain.any fun other => other.reference == link.reference && other.path == link.path

def followSteadily (scope : Scope) (link : Link) : Except Fault Scope :=
  if scope.hasFollowed link then
    .error (.refused (.cycle (loopNames link scope.chain ++ [link.reference])) link.path.text)
  else .ok { scope with chain := scope.chain ++ [link] }

/-- The chain begins anew when a name is bound. -/
def declareSteadily (scope : Scope) (extra : Definitions) : Scope :=
  if scope.options.definitions.adds extra then
    { scope.withDefinitions extra with chain := [] }
  else scope.withDefinitions extra

end Scope

/-- No reference is followed again at one place with the same definitions in force. -/
def Guard.steady : Guard :=
  ⟨Scope.followSteadily, Scope.declareSteadily⟩

/-- Scopes that differ only in what has been followed. -/
structure Scope.Alike (scope scope' : Scope) : Prop where
  options : scope'.options = scope.options
  root : scope'.root = scope.root
  trials : scope'.trials = scope.trials

namespace Scope

theorem Alike.refl (scope : Scope) : scope.Alike scope := ⟨rfl, rfl, rfl⟩

theorem Alike.symm {scope scope' : Scope} (h : scope.Alike scope') : scope'.Alike scope :=
  ⟨h.options.symm, h.root.symm, h.trials.symm⟩

/-- Scopes remain alike whatever is followed. -/
theorem Alike.follow {scope scope' : Scope} (h : scope.Alike scope') (link : Link) :
    Scope.Alike { scope with chain := scope.chain ++ [link] }
      { scope' with chain := scope'.chain ++ [link] } :=
  ⟨h.options, h.root, h.trials⟩

theorem withDefinitions_of_not_adds {scope : Scope} {extra : Definitions}
    (h : scope.options.definitions.adds extra = false) : scope.withDefinitions extra = scope := by
  rw [withDefinitions, Options.withDefinitions, (Definitions.extend_eq_self_iff _ _).mpr h]

theorem declareSteadily_alike {scope scope' : Scope} (h : scope.Alike scope')
    (extra : Definitions) :
    (scope.declareSteadily extra).Alike (scope'.withDefinitions extra) := by
  unfold declareSteadily
  split <;> exact ⟨congrArg (·.withDefinitions extra) h.options, h.root, h.trials⟩

theorem withDefinitions_alike {scope scope' : Scope} (h : scope.Alike scope')
    (extra : Definitions) : (scope.withDefinitions extra).Alike (scope'.withDefinitions extra) :=
  ⟨congrArg (·.withDefinitions extra) h.options, h.root, h.trials⟩

theorem followSteadily_ok {scope next : Scope} {link : Link}
    (h : scope.followSteadily link = .ok next) :
    scope.hasFollowed link = false ∧ next = { scope with chain := scope.chain ++ [link] } := by
  unfold followSteadily at h
  cases hloop : scope.hasFollowed link with
  | true =>
    rw [hloop] at h
    cases h
  | false =>
    rw [hloop] at h
    cases h
    exact ⟨rfl, rfl⟩

theorem followSteadily_error {scope : Scope} {link : Link} {f : Fault}
    (h : scope.followSteadily link = .error f) : scope.hasFollowed link = true ∧
      ∃ references context, f = .refused (.cycle references) context := by
  unfold followSteadily at h
  cases hloop : scope.hasFollowed link with
  | true =>
    rw [hloop] at h
    cases h
    exact ⟨rfl, _, _, rfl⟩
  | false =>
    rw [hloop] at h
    cases h

end Scope

namespace Guard

theorem unguarded_ignoresHook : Guard.unguarded.IgnoresHook where
  follow _ _ _ _ := rfl
  declare _ _ _ _ := rfl

theorem steady_ignoresHook : Guard.steady.IgnoresHook where
  follow scope trials hook link := by
    change Scope.followSteadily _ _ = (Scope.followSteadily _ _).map _
    unfold Scope.followSteadily
    have hsame : (scope.listening trials hook).hasFollowed link = scope.hasFollowed link := rfl
    rw [hsame]
    cases scope.hasFollowed link <;> rfl
  declare scope trials hook extra := by
    change Scope.declareSteadily _ _ = (Scope.declareSteadily _ _).listening trials hook
    unfold Scope.declareSteadily
    have hsame : (scope.listening trials hook).options.definitions = scope.options.definitions :=
      rfl
    rw [hsame]
    cases scope.options.definitions.adds extra <;> rfl

/-- Without a guard a run is the same as with one that comes to an end of the run's own. -/
theorem steady_simulates : Guard.steady.Simulates Fault.OfRun Scope.Alike Guard.unguarded where
  hook h := congrArg Options.hook h.options
  options h := h.options
  root h := h.root
  trials h := h.trials
  trial h := ⟨h.options, h.root, congrArg (· + 1) h.trials⟩
  declare extra h := Scope.declareSteadily_alike h extra
  refuse _ h := by
    obtain ⟨_, references, context, rfl⟩ := Scope.followSteadily_error h
    exact .inl trivial
  follow like h := by
    obtain ⟨_, rfl⟩ := Scope.followSteadily_ok h
    exact ⟨_, rfl, like.follow _⟩

/-- What has been followed makes no difference to a run without a guard. -/
theorem unguarded_simulates :
    Guard.unguarded.Simulates (· = .exhausted) Scope.Alike Guard.unguarded where
  hook h := congrArg Options.hook h.options
  options h := h.options
  root h := h.root
  trials h := h.trials
  trial h := ⟨h.options, h.root, congrArg (· + 1) h.trials⟩
  declare extra h := Scope.withDefinitions_alike h extra
  refuse _ h := nomatch h
  follow like h := by
    cases h
    exact ⟨_, rfl, like.follow _⟩

/-- The references that have not been followed yet at a place. -/
def steadyRoom (tops : List Node) (scope : Scope) (path : Path) : Nat :=
  (Node.space tops).countP fun ref =>
    !scope.chain.any fun other => other.reference == ref.json.display && other.path == path

theorem steady_wanes (tops : List Node) :
    Guard.steady.Wanes tops (steadyRoom tops) (Node.extent tops * Node.extent tops) where
  room_le scope path :=
    Nat.le_trans List.countP_le_length
      (Nat.le_trans (Node.length_space tops) (Nat.le_mul_self _))
  refuse h := by
    obtain ⟨_, references, context, rfl⟩ := Scope.followSteadily_error h
    intro h
    cases h
  options h := by rw [(Scope.followSteadily_ok h).2]
  root h := by rw [(Scope.followSteadily_ok h).2]
  follow := by
    intro scope next ref target path href _ _ h
    obtain ⟨hfresh, rfl⟩ := Scope.followSteadily_ok h
    apply countP_lt _ href.mem_space
    · unfold Scope.hasFollowed at hfresh
      rw [hfresh]
      rfl
    · simp
    · intro other _ hroom
      rw [Bool.not_eq_true', List.any_append, Bool.or_eq_false_iff] at hroom
      rw [hroom.1]
      rfl
  declare_options scope extra := by
    change (Scope.declareSteadily _ _).options = _
    unfold Scope.declareSteadily
    split <;> rfl
  declare_root scope extra := by
    change (Scope.declareSteadily _ _).root = _
    unfold Scope.declareSteadily
    split <;> rfl
  declare scope extra path h := by
    change steadyRoom tops (Scope.declareSteadily _ _) _ = _
    unfold Scope.declareSteadily
    rw [if_neg (by simp [h])]
    rfl

end Guard

end JsonSchema
