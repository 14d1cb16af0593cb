import JsonSchema.Json.Proper
import JsonSchema.Json.Reader

/-! A value that is read from a text has no two members of one name in any object. -/
namespace JsonSchema

namespace Members

theorem keys_put (name : String) (value : Json) (members : Members) :
    keys (put name value members) =
      if name ∈ keys members then keys members else keys members ++ [name] := by
  induction members with
  | nil => rfl
  | cons head rest ih =>
    obtain ⟨key, first⟩ := head
    change keys (if (key == name) = true then _ else _) = if name ∈ key :: keys rest then
      key :: keys rest else key :: keys rest ++ [name]
    by_cases h : key = name
    · subst h
      simp [keys]
    · rw [if_neg (by simpa using h)]
      change key :: keys (put name value rest) = _
      rw [ih]
      by_cases hmem : name ∈ keys rest <;> simp [hmem, Ne.symm h]

theorem nodup_keys_put {members : Members} (distinct : (keys members).Nodup) (name : String)
    (value : Json) : (keys (put name value members)).Nodup := by
  rw [keys_put]
  split
  · exact distinct
  · rename_i hmem
    rw [List.nodup_append]
    simpa [distinct] using fun key hkey (heq : key = name) => hmem (heq ▸ hkey)

theorem mem_put {members : Members} {name key : String} {value other : Json}
    (h : (key, other) ∈ put name value members) : other = value ∨ (key, other) ∈ members := by
  induction members with
  | nil =>
    cases List.mem_singleton.mp h
    exact .inl rfl
  | cons head rest ih =>
    obtain ⟨first, old⟩ := head
    rw [put] at h
    split at h
    · rcases List.mem_cons.mp h with heq | hrest
      · cases heq
        exact .inl rfl
      · exact .inr (List.mem_cons_of_mem _ hrest)
    · rcases List.mem_cons.mp h with heq | hrest
      · exact .inr (heq ▸ List.mem_cons_self)
      · exact (ih hrest).imp_right (List.mem_cons_of_mem _)

end Members

namespace Json

namespace Reader

variable {α β : Type}

theorem ok_of_bind {read : Read α} {next : α → Read β} {b : β} (h : read >>= next = .ok b) :
    ∃ a, read = .ok a ∧ next a = .ok b := by
  cases read with
  | error flaw => cases h
  | ok a => exact ⟨a, rfl, h⟩

theorem ok_of_map {read : Read α} {f : α → β} {b : β} (h : read.map f = .ok b) :
    ∃ a, read = .ok a ∧ f a = b := by
  cases read with
  | error flaw => cases h
  | ok a =>
    cases h
    exact ⟨a, rfl, rfl⟩

/-- Members that are added one by one remain those of a proper object. -/
theorem isProper_put {members : Members} {value : Json} (proper : (Json.obj members).isProper)
    (hvalue : value.isProper) (name : String) :
    (Json.obj (Members.put name value members)).isProper := by
  rw [isProper_obj_iff] at proper ⊢
  refine ⟨Members.nodup_keys_put proper.1 name value, fun (key, other) hmem => ?_⟩
  rcases Members.mem_put hmem with rfl | hold
  · exact hvalue
  · exact proper.2 _ hold

theorem unsigned_isProper {negative : Bool} {cs rest : List Char} {json : Json}
    (h : unsigned negative cs = .ok (json, rest)) : json.isProper := by
  obtain ⟨⟨whole, afterWhole⟩, _, h⟩ := ok_of_bind h
  dsimp only at h
  split at h
  · cases h
    rfl
  · split at h
    · cases h
      rfl
    · split at h <;> cases h
      rfl

theorem word_isProper {letters cs rest : List Char} {json found : Json} (proper : json.isProper)
    (h : word letters json cs = .ok (found, rest)) : found.isProper := by
  unfold word at h
  split at h
  · cases h
    exact proper
  · cases h

theorem scalar_isProper {cs rest : List Char} {json : Json} (h : scalar cs = .ok (json, rest)) :
    json.isProper := by
  unfold scalar at h
  split at h
  · rename_i text
    cases hstring : string? text <;>
      rw [hstring] at h <;> cases h
    rfl
  all_goals first | exact word_isProper rfl h | exact unsigned_isProper h

/-- What is proper among values, elements and members that are read with some fuel. -/
structure ReadsProper (fuel : Nat) : Prop where
  value {cs rest : List Char} {json : Json} :
    value fuel cs = .ok (json, rest) → json.isProper
  items {cs rest : List Char} {elements : List Json} :
    items fuel cs = .ok (elements, rest) → (Json.arr elements).isProper
  members {found all : Members} {cs rest : List Char} :
    members fuel found cs = .ok (all, rest) → (Json.obj found).isProper → (Json.obj all).isProper

theorem value_isProper {fuel : Nat} (less : ReadsProper fuel) {cs rest : List Char} {json : Json}
    (h : Reader.value (fuel + 1) cs = .ok (json, rest)) : json.isProper := by
  unfold Reader.value at h
  split at h
  · cases h
  · obtain rfl : fuel = _ := Nat.succ.inj ‹_›
    split at h
    · cases h
      rfl
    · obtain ⟨_, hitems, heq⟩ := ok_of_map h
      cases heq
      exact less.items hitems
  · obtain rfl : fuel = _ := Nat.succ.inj ‹_›
    split at h
    · cases h
      rfl
    · obtain ⟨_, hmembers, heq⟩ := ok_of_map h
      cases heq
      exact less.members hmembers rfl
  · exact scalar_isProper h

theorem items_isProper {fuel : Nat} (less : ReadsProper fuel) {cs rest : List Char}
    {elements : List Json} (h : Reader.items (fuel + 1) cs = .ok (elements, rest)) :
    (Json.arr elements).isProper := by
  obtain ⟨⟨item, afterItem⟩, hitem, h⟩ := ok_of_bind h
  have hproper := less.value hitem
  dsimp only at h
  split at h
  · obtain ⟨⟨more, afterMore⟩, hmore, h⟩ := ok_of_bind h
    cases h
    exact (areProperItems_iff _).mpr
      (List.forall_mem_cons.mpr ⟨hproper, (areProperItems_iff _).mp (less.items hmore)⟩)
  · cases h
    exact (areProperItems_iff _).mpr (List.forall_mem_singleton.mpr hproper)
  · cases h

theorem members_isProper {fuel : Nat} (less : ReadsProper fuel) {cs rest : List Char}
    {found all : Members} (h : Reader.members (fuel + 1) found cs = .ok (all, rest))
    (proper : (Json.obj found).isProper) : (Json.obj all).isProper := by
  unfold Reader.members at h
  split at h
  · obtain rfl : fuel = _ := Nat.succ.inj ‹_›
    obtain ⟨⟨name, afterName⟩, _, h⟩ := ok_of_bind h
    dsimp only at h
    split at h
    · obtain ⟨⟨json, afterValue⟩, hvalue, h⟩ := ok_of_bind h
      have hput := isProper_put proper (less.value hvalue) name
      dsimp only at h
      split at h
      · exact less.members h hput
      · cases h
        exact hput
      · cases h
    · cases h
  · cases h

/-- By induction on the fuel. -/
theorem readsProper (fuel : Nat) : ReadsProper fuel := by
  induction fuel with
  | zero =>
    refine ⟨fun h => ?_, fun h => ?_, fun h _ => ?_⟩
    · cases h
    · cases h
    · unfold Reader.members at h
      cases h
  | succ fuel ih => exact ⟨value_isProper ih, items_isProper ih, members_isProper ih⟩

end Reader

/-- What is read from a text is proper, also where the text repeats a name. -/
theorem isProper_of_ofText {text : String} {json : Json} (h : ofText text = .ok json) :
    json.isProper := by
  obtain ⟨⟨found, rest⟩, hfound, h⟩ := Reader.ok_of_bind h
  dsimp only at h
  split at h
  · cases h
    exact (Reader.readsProper _).value hfound
  · cases h

end Json

end JsonSchema
