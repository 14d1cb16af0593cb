import JsonSchema.Proofs.Opening

/-! What a hook hears of a validation. A hook that only listens hears of the violations in
the result, one by one and in order; it never changes the result; and a hook that asks to
stop ends the run where it asks. -/
namespace JsonSchema

/-- The setting that makes a hook listen, or that has none listen. -/
def Options.Setting.ofHook : Option Hook → Options.Setting
  | some listens => .hook listens
  | none => .given ⟨.null, none⟩

/-- The same options with another hook, or without one. -/
def Given.heardBy (hook : Option Hook) : Given → Given
  | .absent => .settings [("onError", .ofHook hook)]
  | .settings given => .settings (given ++ [("onError", .ofHook hook)])
  | .built options => .built { options with hook }
  | .unusable json => .unusable json

namespace Options

theorem normalizeFrom_append (done : Normalized) (settings : Settings) {name : String}
    {field : Field} (named : Field.ofName? name = some field) (setting : Setting) :
    normalizeFrom done (settings ++ [(name, setting)]) =
      (normalizeFrom done settings).map (assign field setting) := by
  induction settings generalizing done with
  | nil =>
    rw [List.nil_append, normalizeFrom, normalizeFrom, named]
    rfl
  | cons head rest ih =>
    obtain ⟨other, first⟩ := head
    rw [List.cons_append, normalizeFrom, normalizeFrom]
    cases Field.ofName? other with
    | none => rfl
    | some field => exact ih (assign field first done)

theorem givenNode?_assign (settings : Normalized) (setting : Setting) {field other : Field}
    (h : other ≠ field) :
    givenNode? (assign field setting settings) other = givenNode? settings other := by
  rw [givenNode?, lookup_assign, if_neg h]
  rfl

theorem apply_hook (options : Options) (settings : Normalized) (hook : Option Hook) :
    options.apply (assign .onError (.ofHook hook) settings) =
      (options.apply (assign .onError (.ofHook none) settings)).map ({ · with hook }) := by
  have hhook (hook current : Option Hook) :
      hookFor? (assign .onError (.ofHook hook) settings) current = .ok hook := by
    rw [hookFor?, lookup_assign, if_pos rfl]
    cases hook <;> rfl
  have hother (hook : Option Hook) (field : Field) (other : field ≠ .onError) :=
    givenNode?_assign settings (.ofHook hook) other
  have homitted (hook : Option Hook) :
      omittedFor? (assign .onError (.ofHook hook) settings) = omittedFor? settings := by
    funext current
    rw [omittedFor?, hother hook .omitProperties (by decide)]
    rfl
  have htable (hook : Option Hook) :
      tableFor? (assign .onError (.ofHook hook) settings) = tableFor? settings := by
    funext current
    rw [tableFor?, hother hook .definitions (by decide)]
    rfl
  simp only [apply, hhook, homitted, htable, nodeFor, jsonFor, hother, ne_eq, reduceCtorEq,
    not_false_eq_true]
  cases omittedFor? settings options.omitProperties with
  | error f => rfl
  | ok omitted => cases tableFor? settings options.definitions <;> rfl

/-- Two last settings of one field make the difference in the options that they make alone. -/
theorem merge_append (options : Options) (settings : Settings) {name : String} {field : Field}
    (named : Field.ofName? name = some field) {setting setting' : Setting} {change : Options → Options}
    (h : ∀ normalized, options.apply (assign field setting' normalized) =
      (options.apply (assign field setting normalized)).map change) :
    options.merge (settings ++ [(name, setting')]) =
      (options.merge (settings ++ [(name, setting)])).map change := by
  unfold merge normalize
  rw [normalizeFrom_append _ _ named, normalizeFrom_append _ _ named]
  cases normalizeFrom [] settings with
  | error f => rfl
  | ok normalized => exact h normalized

theorem merge_heardBy (options : Options) (settings : Settings) (hook : Option Hook) :
    options.merge (settings ++ [("onError", .ofHook hook)]) =
      (options.merge (settings ++ [("onError", .ofHook none)])).map ({ · with hook }) :=
  merge_append options settings rfl fun normalized => apply_hook options normalized hook

end Options

/-- A hook makes no difference to the options but for itself. -/
theorem Given.options_heardBy (given : Given) (hook : Option Hook) :
    (given.heardBy hook).options = (given.heardBy none).options.map ({ · with hook }) := by
  cases given with
  | absent => exact Options.merge_heardBy .standard [] hook
  | settings settings => exact Options.merge_heardBy .standard settings hook
  | built options => rfl
  | unusable json => rfl

theorem opening?_heardBy (schema : Json) (given : Given) (hook : Option Hook) :
    opening? schema (given.heardBy hook) =
      (opening? schema (given.heardBy none)).map (·.map ({ · with hook })) := by
  unfold opening?
  cases schema with
  | obj members =>
    dsimp only
    rw [given.options_heardBy hook]
    rcases (given.heardBy none).options with _ | options
    · rfl
    · cases members with
      | nil => rfl
      | cons head rest =>
        change (do
          let extra ← rootDefinitions? (.document .schema (.obj (head :: rest)))
          return some (Options.withDefinitions { options with hook } extra)) =
          Except.map _ (do
            let extra ← rootDefinitions? (.document .schema (.obj (head :: rest)))
            return some (options.withDefinitions extra))
        rcases rootDefinitions? (.document .schema (.obj (head :: rest))) with _ | extra <;> rfl
  | _ => rfl

/-- Whoever listens to a validation, it comes to the same answer and tells the same. -/
theorem validateWith_tells {guard : Guard} (ignores : guard.IgnoresHook) (budget : Options → Nat)
    (fixed : ∀ options hook, budget { options with hook } = budget options)
    (schema value : Json) (given : Given) :
    ∃ told, Tells (fun hook => validateWith guard budget schema value (given.heardBy hook)) 0
      (answerWith guard budget schema value (given.heardBy none)) told := by
  have hopening := opening?_heardBy schema given
  unfold validateWith answerWith
  cases h : opening? schema (given.heardBy none) with
  | error f =>
    refine ⟨[], fun hook heard => ?_, fun _ => rfl, fun _ _ hok => nomatch hok⟩
    rw [hopening hook, h]
    rfl
  | ok opened =>
  cases opened with
  | none =>
    refine ⟨[], fun hook heard => ?_, fun _ => rfl, fun _ _ hok => ?_⟩
    · rw [hopening hook, h]
      rfl
    · cases hok
      rfl
  | some options =>
    let root := Node.document .schema schema
    obtain ⟨told, htold⟩ := Check.descend_tells ignores (budget options)
      (.start options root) 0 root value []
    refine ⟨told, fun hook heard => ?_, htold.quiet, htold.faithful⟩
    rw [hopening hook, h]
    change (Check.descend guard (budget { options with hook })
      ((Scope.start options root).listening 0 hook) root value []).on heard = _
    rw [fixed options hook]
    exact htold.on_eq hook heard

/-- A hook that only listens. -/
def Hook.recording : Hook :=
  fun _ => none

/-- A hook that lets a number of calls pass and asks to stop at the next. -/
def Hook.stopping (calls : Nat) (message : String) : Hook :=
  fun heard => if heard.length = calls + 1 then some message else none

theorem hearing_recording {α : Type} (outcome : Except Fault α) (heard told : List Notice) :
    hearing (some .recording) outcome heard told = (outcome, heard ++ told) := by
  induction told generalizing heard with
  | nil => rw [hearing_nil, List.append_nil]
  | cons notice rest ih =>
    rw [hearing_cons]
    change hearing (some .recording) outcome (heard ++ [notice]) rest = _
    rw [ih, List.append_assoc, List.singleton_append]

theorem hearing_stopping {α : Type} (calls : Nat) (message : String) (outcome : Except Fault α)
    (heard told : List Notice) (le : heard.length ≤ calls) :
    hearing (some (.stopping calls message)) outcome heard told =
      if calls < heard.length + told.length then
        (.error (.stopped message), (heard ++ told).take (calls + 1))
      else (outcome, heard ++ told) := by
  induction told generalizing heard with
  | nil =>
    rw [hearing_nil, if_neg (by simp; omega), List.append_nil]
  | cons notice rest ih =>
    rw [hearing_cons, Hook.stopping, List.length_append, List.length_singleton]
    by_cases h : heard.length = calls
    · have htake : (heard ++ notice :: rest).take (calls + 1) = heard ++ [notice] := by
        rw [← h, List.take_length_add_append]
        rfl
      rw [if_pos (by omega), if_pos (by simp; omega), htake]
    · rw [if_neg (by omega)]
      change hearing (some (.stopping calls message)) outcome (heard ++ [notice]) rest = _
      have hlength : (heard ++ [notice]).length + rest.length
          = heard.length + (notice :: rest).length := by
        simp only [List.length_append, List.length_cons, List.length_nil]
        omega
      rw [ih (heard ++ [notice]) (by simp; omega), hlength, List.append_assoc,
        List.singleton_append]

/-- The calls of a recording hook are the violations of the result, each with its own
place; without a hook the outcome is the same; and a hook that asks to stop ends the run
after its calls so far, or makes no difference if the run has ended before. -/
theorem validate_trace (schema value : Json) (given : Given) :
    let recorded := (validate schema value (given.heardBy (some .recording))).on []
    (∀ violations, recorded.1 = .ok violations →
      recorded.2.map Notice.told = violations.map Violation.placed) ∧
    (validate schema value (given.heardBy none)).on [] = (recorded.1, []) ∧
    ∀ calls message,
      (validate schema value (given.heardBy (some (.stopping calls message)))).on [] =
        if calls < recorded.2.length then
          (.error (.stopped message), recorded.2.take (calls + 1))
        else recorded := by
  obtain ⟨told, htold⟩ := validateWith_tells Guard.chain_ignoresHook
    (enough schema value) (fun _ _ => rfl) schema value given
  unfold validate
  dsimp only
  rw [htold.on_eq (some .recording) [], hearing_recording, List.nil_append]
  refine ⟨fun violations h => htold.faithful violations rfl h, ?_, fun calls message => ?_⟩
  · rw [htold.on_eq none [], hearing_none]
  · rw [htold.on_eq (some (.stopping calls message)) [],
      hearing_stopping calls message _ [] told (Nat.zero_le calls), List.nil_append,
      List.length_nil, Nat.zero_add]

end JsonSchema
