import JsonSchema.Placeholder.InPlace
import JsonSchema.Proofs.Creation
import JsonSchema.Proofs.Cycle
import JsonSchema.Proofs.Stateful
import JsonSchema.Proofs.Unambiguous

/-! Values that are made up in place. Every call leaves the set of the references that are being
followed as it found it, so the parts of an object are made up independently of each other, and
the whole recursion comes to what creation with a list of its own comes to. -/
namespace JsonSchema.Placeholder

variable {table : Definitions} {root node child : Node} {active : Active} {key : Followed}

theorem Creation.on_following {α : Type} (key : Followed) (action : Creation α) (active : Active) :
    (following key action).on active =
      ((action.on (active.insert key)).1, (action.on (active.insert key)).2.erase key) := by
  unfold following on
  rw [run_bind]
  exact run_finally action (·.erase key) (active.insert key)

/-- What was not in the set before is taken out again. -/
theorem erase_insert (fresh : key ∉ active) : (active.insert key).erase key = active := by
  rw [List.insert_of_not_mem fresh, List.erase_cons_head]

/-- What the recursion comes to from a set. -/
def created (table : Definitions) (root : Node) (steps : Nat) (active : Active) (node : Node) :
    Except Fault Json :=
  ((createInPlace table root steps node).on active).1

section

variable {steps : Nat} {json ref : Json} {members : List (String × Node)}

theorem on_value (h : shape node = .value json) :
    (createInPlace table root (steps + 1) node).on active = (.ok json, active) := by
  simp only [createInPlace, h]
  rfl

theorem on_schema (h : shape node = .schema child) :
    (createInPlace table root (steps + 1) node).on active =
      (createInPlace table root steps child).on active := by
  simp only [createInPlace, h]

theorem on_unread {bad : BadIndex} (h : shape node = .reference ref)
    (unread : resolve? ref table root = .error bad) :
    (createInPlace table root (steps + 1) node).on active = (.error (.index bad), active) := by
  simp only [createInPlace, h, unread]
  rfl

theorem on_unresolved (h : shape node = .reference ref)
    (unresolved : resolve? ref table root = .ok none) :
    (createInPlace table root (steps + 1) node).on active = (.ok (.obj []), active) := by
  simp only [createInPlace, h, unresolved]
  rfl

theorem on_resolved {target : Node} (h : shape node = .reference ref)
    (resolved : resolve? ref table root = .ok (some target)) :
    (createInPlace table root (steps + 1) node).on active =
      if ⟨ref.display, target.address⟩ ∈ active then (.ok (.obj []), active)
      else (Creation.following ⟨ref.display, target.address⟩
        (createInPlace table root steps target)).on active := by
  have hrun : (createInPlace table root (steps + 1) node).on active =
      Creation.on (if ⟨ref.display, target.address⟩ ∈ active then return .obj []
        else Creation.following ⟨ref.display, target.address⟩
          (createInPlace table root steps target)) active := by
    simp only [createInPlace, h, resolved]
    rfl
  rw [hrun]
  split <;> rfl

/-- The members of an object, each made up from the set as it was before the object, if none
of them changes it. -/
theorem on_properties (h : shape node = .properties members)
    (keeps : ∀ member ∈ members,
      ((createInPlace table root steps member.2).on active).2 = active) :
    (createInPlace table root (steps + 1) node).on active =
      ((members.mapM fun member =>
        (created table root steps active member.2).map (member.1, ·)).map .obj, active) := by
  let step (member : String × Node) : Creation (String × Json) := do
    return (member.1, ← createInPlace table root steps member.2)
  have hstep (member : String × Node) : (step member).run.run active =
      ((created table root steps active member.2).map (member.1, ·),
        ((createInPlace table root steps member.2).on active).2) := by
    unfold created Creation.on
    refine (run_bind _ _ _).trans ?_
    rcases (createInPlace table root steps member.2).run.run active with ⟨_ | _, _⟩ <;> rfl
  have hsteps : (members.mapM step).run.run active =
      (members.mapM fun member =>
        (created table root steps active member.2).map (member.1, ·), active) := by
    rw [run_mapM fun member hmember => by rw [hstep]; exact keeps member hmember]
    simp only [hstep]
  have hrun : (createInPlace table root (steps + 1) node).on active =
      Creation.on (members.mapM step >>= fun values => return .obj values) active := by
    simp only [createInPlace, h]
    rfl
  rw [hrun, Creation.on, run_bind, hsteps]
  cases (members.mapM fun member =>
    (created table root steps active member.2).map (member.1, ·)) <;> rfl

end

/-- By induction on the steps: what is added to the set is what is taken out again. -/
theorem createInPlace_keeps (table : Definitions) (root : Node) (steps : Nat) (node : Node)
    (active : Active) : ((createInPlace table root steps node).on active).2 = active := by
  induction steps generalizing node active with
  | zero => rfl
  | succ steps ih =>
    cases hshape : shape node with
    | value json => rw [on_value hshape]
    | schema child =>
      rw [on_schema hshape]
      exact ih child active
    | properties members => rw [on_properties hshape fun member _ => ih member.2 active]
    | reference ref =>
      rcases hresolve : resolve? ref table root with bad | _ | target
      · rw [on_unread hshape hresolve]
      · rw [on_unresolved hshape hresolve]
      · rw [on_resolved hshape hresolve]
        split
        · rfl
        · rename_i fresh
          rw [Creation.on_following, ih]
          exact erase_insert fresh

theorem on_eq (steps : Nat) (node : Node) (active : Active) :
    (createInPlace table root steps node).on active = (created table root steps active node, active) :=
  Prod.ext rfl (createInPlace_keeps table root steps node active)

section

variable {steps : Nat} {json ref : Json} {members : List (String × Node)}

theorem created_of_properties (h : shape node = .properties members) :
    created table root (steps + 1) active node =
      (members.mapM fun member =>
        (created table root steps active member.2).map (member.1, ·)).map .obj := by
  rw [created, on_properties h fun member _ => createInPlace_keeps table root steps member.2 active]

theorem created_of_resolved {target : Node} (h : shape node = .reference ref)
    (resolved : resolve? ref table root = .ok (some target)) :
    created table root (steps + 1) active node =
      if ⟨ref.display, target.address⟩ ∈ active then .ok (.obj [])
      else created table root steps (active.insert ⟨ref.display, target.address⟩) target := by
  rw [created, on_resolved h resolved]
  split
  · rfl
  · rw [Creation.on_following]
    rfl

end

/-- The references of a set lead where it says that they do. -/
def Sound (table : Definitions) (root : Node) (active : Active) : Prop :=
  ∀ key ∈ active, ∃ target, resolve? (.str key.reference) table root = .ok (some target) ∧
    key.target = target.address

def references (active : Active) : List Json :=
  active.map fun key => .str key.reference

/-- In such a set a reference is told by its text alone. -/
theorem Sound.mem_iff (sound : Sound table root active) {ref : Json} {target : Node}
    (resolved : resolve? ref table root = .ok (some target)) :
    ⟨ref.display, target.address⟩ ∈ active ↔ (references active).any (·.text == ref.text) := by
  have href := eq_str_of_resolve? resolved
  rw [List.any_eq_true]
  constructor
  · intro hmem
    exact ⟨_, List.mem_map_of_mem hmem, by rw [href]; exact beq_self_eq_true _⟩
  · rintro ⟨_, hmem, hsame⟩
    obtain ⟨key, hkey, rfl⟩ := List.mem_map.mp hmem
    have hname : key.reference = ref.display := by
      rw [href] at hsame
      exact Json.str.inj (Json.text_injective (eq_of_beq hsame))
    obtain ⟨found, hfound, htarget⟩ := sound key hkey
    rw [hname, ← href, resolved] at hfound
    cases hfound
    rw [← hname, ← htarget]
    exact hkey

theorem Sound.insert (sound : Sound table root active) {ref : Json} {target : Node}
    (resolved : resolve? ref table root = .ok (some target)) :
    Sound table root (active.insert ⟨ref.display, target.address⟩) := by
  intro key hkey
  rcases List.mem_insert_iff.mp hkey with rfl | hmem
  · exact ⟨target, by rw [← eq_str_of_resolve? resolved]; exact resolved, rfl⟩
  · exact sound key hmem

/-- From such a set, what is made up in place is what creation makes up from the list. -/
theorem created_eq_create (sound : Sound table root active) (steps : Nat) (node : Node) :
    created table root steps active node = create table root steps (references active) node := by
  induction steps generalizing node active with
  | zero => rfl
  | succ steps ih =>
    cases hshape : shape node with
    | value json => rw [created, on_value hshape, create_of_value hshape]
    | schema child =>
      rw [created, on_schema hshape, create_of_schema hshape]
      exact ih sound child
    | properties members =>
      rw [created_of_properties hshape, create_of_properties hshape]
      simp only [ih sound]
    | reference ref =>
      rcases hresolve : resolve? ref table root with bad | _ | target
      · rw [created, on_unread hshape hresolve, create_of_unread hshape hresolve]
      · rw [created, on_unresolved hshape hresolve, create_of_unresolved hshape hresolve]
      · rw [created_of_resolved hshape hresolve, create_of_resolved hshape hresolve]
        by_cases fresh : ⟨ref.display, target.address⟩ ∈ active
        · rw [if_pos fresh, if_pos ((sound.mem_iff hresolve).mp fresh)]
        · rw [if_neg fresh, if_neg fun h => fresh ((sound.mem_iff hresolve).mpr h),
            ih (sound.insert hresolve), List.insert_of_not_mem fresh]
          rw [references, List.map_cons, ← eq_str_of_resolve? hresolve]
          rfl

/-- The calls that the recursion makes from a node and a set, each with the set as it is then. -/
inductive Calls (table : Definitions) (root : Node) : Active → Node → Active → Node → Prop
  | here (active : Active) (node : Node) : Calls table root active node active node
  | schema {active active' : Active} {node child node' : Node} :
      shape node = .schema child → Calls table root active child active' node' →
      Calls table root active node active' node'
  | property {active active' : Active} {node node' : Node} {members : List (String × Node)}
      {member : String × Node} :
      shape node = .properties members → member ∈ members →
      Calls table root active member.2 active' node' → Calls table root active node active' node'
  | reference {active active' : Active} {node target node' : Node} {ref : Json} :
      shape node = .reference ref → resolve? ref table root = .ok (some target) →
      ⟨ref.display, target.address⟩ ∉ active →
      Calls table root (active.insert ⟨ref.display, target.address⟩) target active' node' →
      Calls table root active node active' node'

/-- A node whose reference, if it turns on one, can be looked up without a fault. -/
def Readable (table : Definitions) (root node : Node) : Prop :=
  ∀ ref bad, shape node = .reference ref → resolve? ref table root ≠ .error bad

section

variable {active' : Active} {node' : Node} {steps : Nat} {json : Json} {f : Fault}

theorem Calls.sound (calls : Calls table root active node active' node')
    (sound : Sound table root active) : Sound table root active' := by
  induction calls with
  | here => exact sound
  | schema _ _ ih => exact ih sound
  | property _ _ _ ih => exact ih sound
  | reference _ resolved _ _ ih => exact ih (sound.insert resolved)

/-- The recursion stays within the schemas, or stops at a text that a pointer leads to. -/
theorem Calls.among {tops : List Node} (hroot : Node.Among tops root)
    (htable : ∀ name node, (name, node) ∈ table → Node.Among tops node)
    (calls : Calls table root active node active' node')
    (hnode : Node.Among tops node ∨ ∃ s, node.json = .str s) :
    Node.Among tops node' ∨ ∃ s, node'.json = .str s := by
  have hbeneath {node child : Node} (hshape : shape node ≠ .value .null)
      (beneath : node.Beneath child) (h : Node.Among tops node ∨ ∃ s, node.json = .str s) :
      Node.Among tops child := by
    rcases h with hamong | ⟨s, hs⟩
    · exact hamong.inside beneath.inside
    · exact absurd (shape_of_not_object (by rw [hs]; rfl)) hshape
  induction calls with
  | here => exact hnode
  | @schema _ _ node _ _ hshape _ ih =>
    have hwithin := shape_within node
    rw [hshape] at hwithin
    exact ih (.inl (hbeneath (by rw [hshape]; nofun) hwithin hnode))
  | @property _ _ node _ _ _ hshape hmember _ ih =>
    have hwithin := shape_within node
    rw [hshape] at hwithin
    exact ih (.inl (hbeneath (by rw [hshape]; nofun) (hwithin _ hmember) hnode))
  | reference _ resolved _ _ ih =>
    apply ih
    rcases resolve?_found resolved with ⟨name, hmem⟩ | ⟨top, htop, hinside⟩ | htext
    · exact .inl (htable name _ hmem)
    · cases htop
      exact .inl (hroot.inside hinside)
    · exact .inr htext

/-- Whatever is called on the way to a value can be looked up. -/
theorem Calls.readable (calls : Calls table root active node active' node')
    (h : created table root steps active node = .ok json) : Readable table root node' := by
  induction calls generalizing steps json with
  | here =>
    intro ref bad hshape unread
    cases steps with
    | zero => cases h
    | succ steps =>
      rw [created, on_unread hshape unread] at h
      cases h
  | schema hshape _ ih =>
    cases steps with
    | zero => cases h
    | succ steps =>
      rw [created, on_schema hshape] at h
      exact ih h
  | property hshape hmember _ ih =>
    cases steps with
    | zero => cases h
    | succ steps =>
      rw [created_of_properties hshape] at h
      obtain ⟨entries, hentries, -⟩ := map_eq_ok_iff.mp h
      obtain ⟨entry, hentry⟩ := (mapM_isOk_iff _).mp ⟨entries, hentries⟩ _ hmember
      obtain ⟨value, hvalue, -⟩ := map_eq_ok_iff.mp hentry
      exact ih hvalue
  | reference hshape resolved fresh _ ih =>
    cases steps with
    | zero => cases h
    | succ steps =>
      rw [created_of_resolved hshape resolved, if_neg fresh] at h
      exact ih h

/-- The recursion fails only where a reference is called that cannot be looked up. -/
theorem created_error (h : created table root steps active node = .error f)
    (ends : f ≠ .exhausted) :
    ∃ bad, f = .index bad ∧ ∃ active' node', Calls table root active node active' node' ∧
      ¬ Readable table root node' := by
  induction steps generalizing active node with
  | zero =>
    cases h
    exact absurd rfl ends
  | succ steps ih =>
    cases hshape : shape node with
    | value json =>
      rw [created, on_value hshape] at h
      cases h
    | schema child =>
      rw [created, on_schema hshape] at h
      obtain ⟨bad, hbad, active', node', calls, unread⟩ := ih h
      exact ⟨bad, hbad, active', node', .schema hshape calls, unread⟩
    | properties members =>
      rw [created_of_properties hshape] at h
      obtain ⟨member, hmember, hentry⟩ := exists_of_mapM_error (map_eq_error_iff.mp h)
      obtain ⟨bad, hbad, active', node', calls, unread⟩ := ih (map_eq_error_iff.mp hentry)
      exact ⟨bad, hbad, active', node', .property hshape hmember calls, unread⟩
    | reference ref =>
      rcases hresolve : resolve? ref table root with bad | _ | target
      · rw [created, on_unread hshape hresolve] at h
        cases h
        exact ⟨bad, rfl, active, node, .here active node, fun read => read ref bad hshape hresolve⟩
      · rw [created, on_unresolved hshape hresolve] at h
        cases h
      · rw [created_of_resolved hshape hresolve] at h
        split at h
        · cases h
        · rename_i fresh
          obtain ⟨bad, hbad, active', node', calls, unread⟩ := ih h
          exact ⟨bad, hbad, active', node', .reference hshape hresolve fresh calls, unread⟩

end

/-- What the recursion comes to for a node from a set, which it leaves as it is. -/
def Creates (table : Definitions) (root : Node) (active : Active) (node : Node) (value : Json) :
    Prop :=
  ∃ steps, (createInPlace table root steps node).on active = (.ok value, active)

section

variable {value value' : Json} {members : List (String × Node)}

theorem creates_iff :
    Creates table root active node value ↔
      ∃ steps, created table root steps active node = .ok value := by
  simp only [Creates, on_eq, Prod.mk.injEq, and_true]

/-- More steps make no difference where there were enough. -/
theorem created_mono (sound : Sound table root active) {steps steps' : Nat} (le : steps ≤ steps')
    (h : created table root steps active node = .ok value) :
    created table root steps' active node = .ok value := by
  rw [created_eq_create sound] at h ⊢
  rw [create_mono le (by rw [h]; nofun), h]

theorem Creates.unique (sound : Sound table root active)
    (h : Creates table root active node value) (h' : Creates table root active node value') :
    value = value' := by
  obtain ⟨steps, hsteps⟩ := creates_iff.mp h
  obtain ⟨steps', hsteps'⟩ := creates_iff.mp h'
  have hmore := created_mono sound (Nat.le_max_left steps steps') hsteps
  rw [created_mono sound (Nat.le_max_right steps steps') hsteps'] at hmore
  exact (Except.ok.inj hmore).symm

/-- What a node turns on is all that its value depends on. -/
theorem creates_congr {node' : Node} (h : shape node = shape node') :
    Creates table root active node value ↔ Creates table root active node' value := by
  have hsteps : ∀ steps, createInPlace table root steps node = createInPlace table root steps node' := by
    rintro (_ | steps)
    · rfl
    · simp only [createInPlace, h]
  simp only [Creates, hsteps]

/-- Steps that are enough for each of some members are enough for all of them. -/
theorem exists_steps (sound : Sound table root active) {entries : Members}
    (each : List.Forall₂ (fun member entry => entry.1 = member.1 ∧
      Creates table root active member.2 entry.2) members entries) :
    ∃ steps, List.Forall₂ (fun (member : String × Node) entry =>
      (created table root steps active member.2).map (member.1, ·) = .ok entry) members entries := by
  induction each with
  | nil => exact ⟨0, .nil⟩
  | @cons member entry members entries hhead _ ih =>
    obtain ⟨rest, hrest⟩ := ih
    obtain ⟨steps, hsteps⟩ := creates_iff.mp hhead.2
    refine ⟨max steps rest, .cons ?_ (hrest.imp fun member entry h => ?_)⟩
    · rw [created_mono sound (Nat.le_max_left steps rest) hsteps, ← hhead.1]
      rfl
    · obtain ⟨value, hvalue, rfl⟩ := map_eq_ok_iff.mp h
      rw [created_mono sound (Nat.le_max_right steps rest) hvalue]
      rfl

/-- The entries of an object are the values of its properties, each made up for that property
alone. -/
theorem creates_properties_iff (sound : Sound table root active)
    (h : shape node = .properties members) :
    Creates table root active node value ↔
      ∃ entries, value = .obj entries ∧ List.Forall₂ (fun member entry =>
        entry.1 = member.1 ∧ Creates table root active member.2 entry.2) members entries := by
  constructor
  · intro hcreates
    obtain ⟨_ | steps, hsteps⟩ := creates_iff.mp hcreates
    · cases hsteps
    · rw [created_of_properties h] at hsteps
      obtain ⟨entries, hentries, rfl⟩ := map_eq_ok_iff.mp hsteps
      refine ⟨entries, rfl, ((mapM_eq_ok_iff _ _).mp hentries).imp fun member entry hentry => ?_⟩
      obtain ⟨value, hvalue, rfl⟩ := map_eq_ok_iff.mp hentry
      exact ⟨rfl, creates_iff.mpr ⟨steps, hvalue⟩⟩
  · rintro ⟨entries, rfl, each⟩
    obtain ⟨steps, hsteps⟩ := exists_steps sound each
    refine creates_iff.mpr ⟨steps + 1, ?_⟩
    rw [created_of_properties h, (mapM_eq_ok_iff _ _).mpr hsteps]
    rfl

theorem properties_of_ofType {type : Node} (h : ofType node type = .properties members) :
    members = Check.properties node := by
  unfold ofType at h
  dsimp only at h
  split at h
  · cases h
  · split at h
    · split at h <;> cases h
    · cases h
      rfl
    · cases h
    · cases h

/-- An object-typed node turns on the properties that it declares. -/
theorem properties_of_shape (h : shape node = .properties members) :
    members = Check.properties node := by
  unfold shape ofCombinator at h
  repeat' split at h
  all_goals first
    | exact properties_of_ofType h
    | cases h

end

section

variable {schema : Json} {definitions : Definitions}

/-- Wherever the recursion is called from the root, it comes to an end. -/
theorem Calls.ends (calls : Calls (tableOf schema definitions) (.document .schema schema) []
      (.document .schema schema) active node) :
    ∃ steps, created (tableOf schema definitions) (.document .schema schema) steps active node ≠
      .error .exhausted := by
  have sound := calls.sound nofun
  have hroot := root_among schema definitions
  rcases calls.among hroot tableOf_among (.inl hroot) with hamong | ⟨s, hs⟩
  · refine ⟨room (sources schema definitions) (references active) *
      (Node.extent (sources schema definitions) + 1) + node.json.size + 1, ?_⟩
    rw [created_eq_create sound]
    exact create_ends hroot tableOf_among hamong (Nat.lt_succ_self _)
  · refine ⟨1, ?_⟩
    rw [created, on_value (shape_of_not_object (by rw [hs]; rfl))]
    nofun

/-- A node has a value exactly if whatever is called below it can be looked up, and then only
one. -/
theorem Calls.existsUnique (calls : Calls (tableOf schema definitions) (.document .schema schema) []
      (.document .schema schema) active node)
    (readable : ∀ active' node', Calls (tableOf schema definitions) (.document .schema schema)
      active node active' node' → Readable (tableOf schema definitions) (.document .schema schema) node') :
    ∃! value, Creates (tableOf schema definitions) (.document .schema schema) active node value := by
  obtain ⟨steps, hends⟩ := calls.ends
  have sound := calls.sound nofun
  cases hcreated : created (tableOf schema definitions) (.document .schema schema) steps active node with
  | ok value =>
    exact ⟨value, creates_iff.mpr ⟨steps, hcreated⟩, fun value' h' =>
      h'.unique sound (creates_iff.mpr ⟨steps, hcreated⟩)⟩
  | error f =>
    obtain ⟨bad, -, active', node', hcalls, unread⟩ :=
      created_error hcreated fun h => hends (by rw [hcreated, h])
    exact absurd (readable active' node' hcalls) unread

theorem sound_nil : Sound table root [] :=
  nofun

/-- From the root and with no reference followed yet, the recursion comes to the value. -/
theorem on_root (schema : Json) (definitions : Definitions) :
    ∃ enough, ∀ steps, enough ≤ steps →
      (createInPlace (tableOf schema definitions) (.document .schema schema) steps
        (.document .schema schema)).on [] = (createValue schema definitions, []) := by
  refine ⟨(schema.size + definitions.size + 1) * (schema.size + definitions.size + 1) + 1,
    fun steps le => ?_⟩
  have hends := createValue_ends schema definitions
  rw [on_eq, created_eq_create sound_nil]
  unfold createValue at hends ⊢
  exact congrArg (·, []) (create_mono le hends)

/-- There is a value exactly if every reference that the recursion is called for can be looked
up. -/
theorem createValue_isOk_iff :
    (∃ value, createValue schema definitions = .ok value) ↔
      ∀ active node, Calls (tableOf schema definitions) (.document .schema schema) []
        (.document .schema schema) active node →
          Readable (tableOf schema definitions) (.document .schema schema) node := by
  obtain ⟨steps, hsteps⟩ := on_root schema definitions
  have hcreated : created (tableOf schema definitions) (.document .schema schema) steps []
      (.document .schema schema) = createValue schema definitions := by
    rw [created, hsteps steps le_rfl]
  constructor
  · rintro ⟨value, hvalue⟩ active node calls
    exact calls.readable (hcreated.trans hvalue)
  · intro readable
    cases hvalue : createValue schema definitions with
    | ok value => exact ⟨value, rfl⟩
    | error f =>
      obtain ⟨bad, -, active, node, calls, unread⟩ := created_error (hcreated.trans hvalue)
        fun h => createValue_ends schema definitions (by rw [hvalue, h])
      exact absurd (readable active node calls) unread

/-- Otherwise it fails with an index that is not read. -/
theorem createValue_error {f : Fault} (h : createValue schema definitions = .error f) :
    ∃ bad, f = .index bad := by
  obtain ⟨steps, hsteps⟩ := on_root schema definitions
  have hcreated : created (tableOf schema definitions) (.document .schema schema) steps []
      (.document .schema schema) = .error f := by
    rw [created, hsteps steps le_rfl, h]
  obtain ⟨bad, hbad, -⟩ := created_error hcreated
    fun hf => createValue_ends schema definitions (by rw [h, hf])
  exact ⟨bad, hbad⟩

end

/-- The recursion that makes up a value ends on every graph of references, and its parts are
independent. It comes to a value exactly if every reference that it is called for can be looked
up, and otherwise fails with an index that is not read. Every call leaves the set of the references
being followed as it found it. So wherever it is called for an object-typed node, the entry of each
declared property is what it makes up for that property alone, from the set as it was; and what
nodes turn on is all that their values depend on, as for two properties that refer to the same. -/
theorem created_parts_are_independent {schema : Json} {given : Node} {definitions : Definitions}
    (accepted : Options.table? given = .ok definitions) :
    let table := tableOf schema definitions
    let root := Node.document .schema schema
    ((∃ value, createValueWith schema given = .ok value) ↔
        ∀ active node, Calls table root [] root active node → Readable table root node) ∧
      (∀ f, createValueWith schema given = .error f → ∃ bad, f = .index bad) ∧
      (∃ enough, ∀ steps, enough ≤ steps →
        (createInPlace table root steps root).on [] = (createValueWith schema given, [])) ∧
      (∀ steps node active, ((createInPlace table root steps node).on active).2 = active) ∧
      ∀ active node, Calls table root [] root active node →
        ((∀ active' node', Calls table root active node active' node' → Readable table root node') →
          ∃! value, Creates table root active node value) ∧
        (∀ members, shape node = .properties members → members = Check.properties node ∧
          ∀ value, Creates table root active node value ↔ ∃ entries, value = .obj entries ∧
            List.Forall₂ (fun member entry =>
              entry.1 = member.1 ∧ Creates table root active member.2 entry.2) members entries) ∧
        ∀ node' value, shape node = shape node' →
          (Creates table root active node value ↔ Creates table root active node' value) := by
  intro table root
  rw [createValueWith_of_table? accepted]
  refine ⟨createValue_isOk_iff, fun f => createValue_error, on_root schema definitions,
    createInPlace_keeps table root, fun active node calls => ⟨calls.existsUnique, ?_, ?_⟩⟩
  · intro members hshape
    exact ⟨properties_of_shape hshape, fun value =>
      creates_properties_iff (calls.sound sound_nil) hshape⟩
  · exact fun node' value => creates_congr

/-- Two definitions that lead to each other, one of them back to the root as well. -/
def woods : Json :=
  .obj
    [("Tree", .obj [("properties", .obj [("up", .obj [("$ref", .str "Forest")])])]),
      ("Forest", .obj [("properties", .obj
        [("tree", .obj [("$ref", .str "Tree")]), ("root", .obj [("$ref", .str "#")])])])]

theorem created_parts_are_independent_recursive :
    let schema := Json.obj [("properties", .obj
      [("left", .obj [("$ref", .str "Tree")]), ("right", .obj [("$ref", .str "Tree")])])]
    let given := Node.document (.supplied 0) woods
    let root := Node.document .schema schema
    let part := Json.obj [("up", .obj [("tree", .obj []),
      ("root", .obj [("left", .obj []), ("right", .obj [])])])]
    let value := Json.obj [("left", part), ("right", part)]
    createValueWith schema given = .ok value ∧
      (∃ enough, ∀ steps, enough ≤ steps →
        (createInPlace (tableOf schema given.members) root steps root).on [] = (.ok value, [])) ∧
      ∀ member ∈ Check.properties root,
        Creates (tableOf schema given.members) root [] member.2 part := by
  intro schema given root part value
  have hvalue : createValueWith schema given = .ok value := by rfl
  obtain ⟨-, -, ⟨enough, hruns⟩, -, hparts⟩ :=
    @created_parts_are_independent schema given given.members rfl
  rw [hvalue] at hruns
  refine ⟨hvalue, ⟨enough, hruns⟩, ?_⟩
  obtain ⟨-, hproperties, -⟩ := hparts [] root (.here [] root)
  obtain ⟨entries, hentries, each⟩ :=
    ((hproperties (Check.properties root) rfl).2 value).mp ⟨enough, hruns enough le_rfl⟩
  obtain rfl : [("left", part), ("right", part)] = entries := Json.obj.inj hentries
  obtain ⟨left, right, hlist⟩ :
      ∃ left right, Check.properties root = [("left", left), ("right", right)] := ⟨_, _, rfl⟩
  rw [hlist] at each ⊢
  rcases each with _ | ⟨hleft, _ | ⟨hright, _⟩⟩
  exact List.forall_mem_cons.mpr ⟨hleft.2, List.forall_mem_cons.mpr ⟨hright.2, nofun⟩⟩

/-- A pointer whose index starts like a number and goes on otherwise is neither followed nor
taken for one that leads nowhere. -/
theorem unread_index_ends_creation :
    ¬ ∃ value, createValueWith (.obj [("$ref", .str "#/items/0x"), ("items", .arr [.obj []])])
      (.document (.supplied 0) .null) = .ok value := by
  rintro ⟨value, h⟩
  have hfault : createValueWith (.obj [("$ref", .str "#/items/0x"), ("items", .arr [.obj []])])
      (.document (.supplied 0) .null) = .error (.index ⟨"0x", .notANumber⟩) := by rfl
  rw [hfault] at h
  cases h

end JsonSchema.Placeholder
