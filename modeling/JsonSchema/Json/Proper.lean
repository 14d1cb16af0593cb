import JsonSchema.Path

/-! Values without two members of one name in any object. The parts of such a value are
found again by their steps. -/
namespace JsonSchema

/-- The member of a name is the only one of that name. -/
theorem Members.lookup_of_mem {members : Members} (distinct : (keys members).Nodup)
    {name : String} {value : Json} (h : (name, value) ∈ members) :
    members.lookup name = some value := by
  induction members with
  | nil => cases h
  | cons head rest ih =>
    obtain ⟨key, first⟩ := head
    rw [keys, List.map_cons, List.nodup_cons] at distinct
    rcases List.mem_cons.mp h with heq | hrest
    · cases heq
      simp
    · have hne : name ≠ key := by
        rintro rfl
        exact distinct.1 (List.mem_map.mpr ⟨(name, value), hrest, rfl⟩)
      have hskip : (name == key) = false := by simp [hne]
      rw [List.lookup_cons, hskip]
      exact ih distinct.2 hrest

namespace Json

mutual

/-- Whether the names of the members of every object in a value are distinct. -/
def isProper : Json → Bool
  | .arr items => areProperItems items
  | .obj members => decide (Members.keys members).Nodup && areProperMembers members
  | _ => true

def areProperItems : List Json → Bool
  | [] => true
  | item :: rest => item.isProper && areProperItems rest

def areProperMembers : List (String × Json) → Bool
  | [] => true
  | (_, value) :: rest => value.isProper && areProperMembers rest

end

theorem areProperItems_iff (items : List Json) :
    areProperItems items = true ↔ ∀ item ∈ items, item.isProper := by
  induction items with
  | nil => simp [areProperItems]
  | cons item rest ih => simp [areProperItems, ih]

theorem areProperMembers_iff (members : Members) :
    areProperMembers members = true ↔ ∀ member ∈ members, member.2.isProper := by
  induction members with
  | nil => simp [areProperMembers]
  | cons member rest ih => simp [areProperMembers, ih]

theorem isProper_obj_iff (members : Members) :
    (Json.obj members).isProper = true ↔
      (Members.keys members).Nodup ∧ ∀ member ∈ members, member.2.isProper := by
  rw [isProper, Bool.and_eq_true, decide_eq_true_iff, areProperMembers_iff]

/-- A part of a value, one step below it. -/
inductive Part : Json → Step → Json → Prop
  | item {items : List Json} {i : Nat} {item : Json} :
      items[i]? = some item → Part (.arr items) (.index i) item
  | member {members : Members} {name : String} {value : Json} :
      (name, value) ∈ members → Part (.obj members) (.key name) value

theorem Part.isProper {value part : Json} {step : Step} (h : value.Part step part)
    (proper : value.isProper) : part.isProper := by
  cases h with
  | item hitem => exact (areProperItems_iff _).mp proper _ (List.mem_of_getElem? hitem)
  | member hmember => exact ((isProper_obj_iff _).mp proper).2 _ hmember

theorem Part.child? {value part : Json} {step : Step} (h : value.Part step part)
    (proper : value.isProper) : value.child? step = some part := by
  cases h with
  | item hitem => simpa [Json.child?] using hitem
  | member hmember => exact Members.lookup_of_mem ((isProper_obj_iff _).mp proper).1 hmember

theorem size_le_sizeItems {item : Json} {items : List Json} (h : item ∈ items) :
    item.size ≤ sizeItems items := by
  induction items with
  | nil => cases h
  | cons head rest ih =>
    rw [sizeItems]
    rcases List.mem_cons.mp h with rfl | hrest
    · omega
    · have := ih hrest
      omega

theorem size_le_sizeMembers {name : String} {value : Json} {members : Members}
    (h : (name, value) ∈ members) : value.size ≤ sizeMembers members := by
  induction members with
  | nil => cases h
  | cons head rest ih =>
    obtain ⟨key, first⟩ := head
    rw [sizeMembers]
    rcases List.mem_cons.mp h with heq | hrest
    · cases heq
      omega
    · have := ih hrest
      omega

theorem depth_le_depthItems {item : Json} {items : List Json} (h : item ∈ items) :
    item.depth ≤ depthItems items := by
  induction items with
  | nil => cases h
  | cons head rest ih =>
    rw [depthItems]
    rcases List.mem_cons.mp h with rfl | hrest
    · exact Nat.le_max_left _ _
    · exact Nat.le_trans (ih hrest) (Nat.le_max_right _ _)

theorem depth_le_depthMembers {name : String} {value : Json} {members : Members}
    (h : (name, value) ∈ members) : value.depth ≤ depthMembers members := by
  induction members with
  | nil => cases h
  | cons head rest ih =>
    obtain ⟨key, first⟩ := head
    rw [depthMembers]
    rcases List.mem_cons.mp h with heq | hrest
    · cases heq
      exact Nat.le_max_left _ _
    · exact Nat.le_trans (ih hrest) (Nat.le_max_right _ _)

theorem Part.size_lt {value part : Json} {step : Step} (h : value.Part step part) :
    part.size < value.size := by
  cases h with
  | item hitem => exact Nat.lt_succ_of_le (size_le_sizeItems (List.mem_of_getElem? hitem))
  | member hmember => exact Nat.lt_succ_of_le (size_le_sizeMembers hmember)

theorem Part.depth_lt {value part : Json} {step : Step} (h : value.Part step part) :
    part.depth < value.depth := by
  cases h with
  | item hitem => exact Nat.lt_succ_of_le (depth_le_depthItems (List.mem_of_getElem? hitem))
  | member hmember => exact Nat.lt_succ_of_le (depth_le_depthMembers hmember)

mutual

/-- How many steps lead from a value to the deepest of its parts. -/
def height : Json → Nat
  | .arr items => heightItems items
  | .obj members => heightMembers members
  | _ => 0

def heightItems : List Json → Nat
  | [] => 0
  | item :: rest => max (item.height + 1) (heightItems rest)

def heightMembers : List (String × Json) → Nat
  | [] => 0
  | (_, value) :: rest => max (value.height + 1) (heightMembers rest)

end

theorem height_lt_heightItems {item : Json} {items : List Json} (h : item ∈ items) :
    item.height < heightItems items := by
  induction items with
  | nil => cases h
  | cons head rest ih =>
    rw [heightItems]
    rcases List.mem_cons.mp h with rfl | hrest
    · exact Nat.le_max_left _ _
    · exact Nat.lt_of_lt_of_le (ih hrest) (Nat.le_max_right _ _)

theorem height_lt_heightMembers {name : String} {value : Json} {members : Members}
    (h : (name, value) ∈ members) : value.height < heightMembers members := by
  induction members with
  | nil => cases h
  | cons head rest ih =>
    obtain ⟨key, first⟩ := head
    rw [heightMembers]
    rcases List.mem_cons.mp h with heq | hrest
    · cases heq
      exact Nat.le_max_left _ _
    · exact Nat.lt_of_lt_of_le (ih hrest) (Nat.le_max_right _ _)

theorem Part.height_lt {value part : Json} {step : Step} (h : value.Part step part) :
    part.height < value.height := by
  cases h with
  | item hitem => exact height_lt_heightItems (List.mem_of_getElem? hitem)
  | member hmember => exact height_lt_heightMembers hmember

/-- A property holds of every value if it passes from the parts of a value to the value. -/
theorem induction_parts {motive : Json → Prop}
    (whole : ∀ value, (∀ step part, value.Part step part → motive part) → motive value)
    (value : Json) : motive value := by
  generalize hsize : value.size = size
  induction size using Nat.strongRecOn generalizing value with
  | ind size ih =>
    subst hsize
    exact whole value fun step part hpart => ih part.size hpart.size_lt part rfl

end Json

end JsonSchema
