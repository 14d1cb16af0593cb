import JsonSchema.Json.Proper
import JsonSchema.Proofs.Constraint
import JsonSchema.Proofs.Lockstep
import JsonSchema.Proofs.Unambiguous

/-! Names that the options omit. Whether and what an omitted member is makes no difference to
a run, but for one thing: a property that needs another one asks for it by name, and asks for
omitted names as well. -/
namespace JsonSchema

/-- Members of those names that are not there. -/
def Members.missing (names : List String) (members : Members) : Members :=
  (names.filter fun name => !members.has name).map fun name => (name, .null)

namespace Json

mutual

/-- A value without the members of some names, at every depth. -/
def without (hidden : String → Bool) : Json → Json
  | .arr items => .arr (withoutItems hidden items)
  | .obj members => .obj (withoutMembers hidden members)
  | value => value

def withoutItems (hidden : String → Bool) : List Json → List Json
  | [] => []
  | item :: rest => item.without hidden :: withoutItems hidden rest

def withoutMembers (hidden : String → Bool) : List (String × Json) → List (String × Json)
  | [] => []
  | (name, value) :: rest =>
    if hidden name then withoutMembers hidden rest
    else (name, value.without hidden) :: withoutMembers hidden rest

end

mutual

/-- A value in which every object has a member of each of some names. -/
def granted (names : List String) : Json → Json
  | .arr items => .arr (grantedItems names items)
  | .obj members => .obj (grantedMembers names members ++ Members.missing names members)
  | value => value

def grantedItems (names : List String) : List Json → List Json
  | [] => []
  | item :: rest => item.granted names :: grantedItems names rest

def grantedMembers (names : List String) : List (String × Json) → List (String × Json)
  | [] => []
  | (name, value) :: rest => (name, value.granted names) :: grantedMembers names rest

end

variable {hidden : String → Bool} {names : List String}

theorem withoutItems_eq_map (hidden : String → Bool) (items : List Json) :
    withoutItems hidden items = items.map (without hidden) := by
  induction items with
  | nil => rfl
  | cons item rest ih => rw [withoutItems, ih, List.map_cons]

theorem withoutMembers_eq_map (hidden : String → Bool) (members : Members) :
    withoutMembers hidden members =
      (members.shown hidden).map fun member => (member.1, member.2.without hidden) := by
  induction members with
  | nil => rfl
  | cons member rest ih =>
    obtain ⟨name, value⟩ := member
    rw [withoutMembers, ih]
    unfold Members.shown
    rw [List.filter_cons]
    cases hname : hidden name <;> simp [hname]

theorem grantedItems_eq_map (names : List String) (items : List Json) :
    grantedItems names items = items.map (granted names) := by
  induction items with
  | nil => rfl
  | cons item rest ih => rw [grantedItems, ih, List.map_cons]

theorem grantedMembers_eq_map (names : List String) (members : Members) :
    grantedMembers names members = members.map fun member => (member.1, member.2.granted names) := by
  induction members with
  | nil => rfl
  | cons member rest ih => rw [grantedMembers, ih, List.map_cons]

/-- What is granted is hidden, so the members that are shown are the same. -/
theorem shown_granted (covered : ∀ name ∈ names, hidden name = true) (members : Members) :
    Members.shown hidden (grantedMembers names members ++ members.missing names) =
      (members.shown hidden).map fun member => (member.1, member.2.granted names) := by
  have hnone : (members.missing names).shown hidden = [] := by
    refine List.filter_eq_nil_iff.mpr fun member hmember => ?_
    obtain ⟨name, hname, rfl⟩ := List.mem_map.mp hmember
    simp [covered name (List.mem_of_mem_filter hname)]
  rw [Members.shown, List.filter_append, ← Members.shown, ← Members.shown, hnone, List.append_nil,
    grantedMembers_eq_map, Members.shown, Members.shown, List.filter_map]
  rfl

theorem has_granted (members : Members) {name : String} (h : name ∈ names) :
    Members.has (grantedMembers names members ++ members.missing names) name = true := by
  rw [Members.has, List.any_append, ← Members.has, ← Members.has, Bool.or_eq_true]
  cases hhas : members.has name with
  | true =>
    left
    rw [grantedMembers_eq_map, Members.has, List.any_map]
    exact hhas
  | false =>
    right
    refine List.any_eq_true.mpr ⟨(name, .null), ?_, by simp⟩
    exact List.mem_map.mpr ⟨name, List.mem_filter.mpr ⟨h, by rw [hhas]; rfl⟩, rfl⟩

/-- By induction on the parts: granting what is hidden changes nothing that is not. -/
theorem without_granted (covered : ∀ name ∈ names, hidden name = true) (value : Json) :
    (value.granted names).without hidden = value.without hidden := by
  induction value using induction_parts with
  | whole value ih =>
    cases value with
    | arr items =>
      rw [granted, without, without, withoutItems_eq_map, withoutItems_eq_map, grantedItems_eq_map,
        List.map_map]
      congr 1
      apply List.map_congr_left
      intro item hitem
      obtain ⟨i, hi⟩ := List.getElem?_of_mem hitem
      exact ih _ item (.item hi)
    | obj members =>
      rw [granted, without, without, withoutMembers_eq_map, withoutMembers_eq_map,
        shown_granted covered, List.map_map]
      congr 1
      apply List.map_congr_left
      intro member hmember
      exact congrArg (Prod.mk member.1) (ih _ member.2 (.member (List.mem_of_mem_filter hmember)))
    | _ => rfl

theorem pairs_of_map_eq {α β γ : Type} {f : α → γ} {g : β → γ} {l : List α} {l' : List β}
    (h : l.map f = l'.map g) : List.Forall₂ (fun a b => f a = g b) l l' := by
  rw [← List.forall₂_eq_eq_eq, List.forall₂_map_left_iff, List.forall₂_map_right_iff] at h
  exact h

/-- Values that are the same without what is hidden. -/
def SameBut (hidden : String → Bool) (value value' : Json) : Prop :=
  value'.without hidden = value.without hidden

theorem SameBut.resembles {value value' : Json} (h : SameBut hidden value value') :
    value.Resembles hidden (SameBut hidden) value' := by
  unfold SameBut at h
  cases value with
  | arr items =>
    cases value' with
    | arr items' =>
      rw [without, without, withoutItems_eq_map, withoutItems_eq_map] at h
      exact .arr (pairs_of_map_eq (Json.arr.inj h).symm |>.imp fun _ _ heq => heq.symm)
    | _ => simp [without] at h
  | obj members =>
    cases value' with
    | obj members' =>
      rw [without, without, withoutMembers_eq_map, withoutMembers_eq_map] at h
      refine .obj (pairs_of_map_eq (Json.obj.inj h).symm |>.imp fun _ _ heq => ?_)
      exact ⟨(congrArg Prod.fst heq).symm, (congrArg Prod.snd heq).symm⟩
    | _ => simp [without] at h
  | _ =>
    cases value' <;> simp only [without] at h <;> cases h
    exact .scalar rfl rfl

/-- Values that differ in what is hidden only, and not in whether there are members of some
names. -/
structure Masks (hidden : String → Bool) (watched : String → Prop) (alike : Json → Json → Prop) :
    Prop where
  resembles {value value' : Json} : alike value value' → value.Resembles hidden alike value'
  sameBut {value value' : Json} : alike value value' → SameBut hidden value value'
  has {members members' : Members} {name : String} : alike (.obj members) (.obj members') →
    watched name → hidden name → Members.has members' name = Members.has members name

theorem masks_sameBut (hidden : String → Bool) :
    Masks hidden (fun _ => False) (SameBut hidden) where
  resembles h := h.resembles
  sameBut h := h
  has _ watched := watched.elim

/-- Two values in which all hidden names are granted. -/
def BothGranted (hidden : String → Bool) (names : List String) (value value' : Json) : Prop :=
  ∃ bare bare', SameBut hidden bare bare' ∧ value = bare.granted names ∧
    value' = bare'.granted names

theorem masks_bothGranted (covered : ∀ name, hidden name = true ↔ name ∈ names) :
    Masks hidden (fun _ => True) (BothGranted hidden names) where
  resembles := by
    rintro _ _ ⟨value, value', same, rfl, rfl⟩
    have hresembles := same.resembles
    cases hresembles with
    | scalar harray hobject =>
      have hgranted : value.granted names = value := by
        cases value with
        | arr items => cases harray
        | obj members => cases hobject
        | _ => rfl
      rw [hgranted]
      exact .scalar harray hobject
    | arr hitems =>
      rw [granted, granted, grantedItems_eq_map, grantedItems_eq_map]
      refine .arr ?_
      rw [List.forall₂_map_left_iff, List.forall₂_map_right_iff]
      exact hitems.imp fun item item' hitem => ⟨item, item', hitem, rfl, rfl⟩
    | obj hmembers =>
      rw [granted, granted]
      refine .obj ?_
      rw [shown_granted fun name h => (covered name).mpr h,
        shown_granted fun name h => (covered name).mpr h, List.forall₂_map_left_iff,
        List.forall₂_map_right_iff]
      refine hmembers.imp fun member member' ⟨hname, hvalue⟩ => ⟨hname, ?_⟩
      exact ⟨member.2, member'.2, hvalue, rfl, rfl⟩
  sameBut := by
    rintro _ _ ⟨value, value', same, rfl, rfl⟩
    rw [SameBut, without_granted fun name h => (covered name).mpr h,
      without_granted fun name h => (covered name).mpr h]
    exact same
  has := by
    rintro members members' name ⟨value, value', same, hvalue, hvalue'⟩ - hname
    have hmem := (covered name).mp hname
    have hgranted : ∀ {members : Members} {value : Json},
        Json.obj members = value.granted names → Members.has members name = true := by
      intro members value h
      cases value <;> cases h
      exact has_granted _ hmem
    rw [hgranted hvalue, hgranted hvalue']

end Json

/-- Notices look alike that differ only in what is hidden in the values that they are about. -/
def View.without (hidden : String → Bool) : View where
  notices notice notice' :=
    { notice' with value := notice.value } = notice ∧ notice.value.SameBut hidden notice'.value
  violations violation violation' := violation = violation'
  of_notices {notice notice'} h := by
    have hviolation := congrArg Notice.violation h.1
    exact hviolation.symm

/-- Runs with one schema on values that differ in some way. -/
def Pairing.masked (hidden : String → Bool) (alike : Json → Json → Prop) : Pairing where
  view := .without hidden
  nodes _ schema schema' := schema' = schema
  values := alike
  links link link' := link' = link

/-- No values are compared as a whole, and of the hidden names only those that are watched are
needed by a property. -/
structure Node.Overlooks (hidden : String → Bool) (watched : String → Prop) (schema : Node) :
    Prop where
  enum : schema.member? "enum" = none
  uniqueItems : schema.member? "uniqueItems" = none
  needed : ∀ name ∈ Check.neededNames schema, hidden name → watched name

namespace Check

variable {hidden : String → Bool} {watched : String → Prop} {alike : Json → Json → Prop}
  {options : Options} {root schema : Node} {value value' : Json} {path : Path}

theorem corresponds_masked (masks : Json.Masks hidden watched alike)
    (overlooks : schema.Overlooks hidden watched) (omits : options.omits = hidden) :
    Corresponds (.masked hidden alike) options options path schema schema := by
  have self : ∀ place node, (Pairing.masked hidden alike).nodes place node node :=
    fun _ _ => rfl
  have hseen : ∀ {value value' : Json}, alike value value' → ∀ violation : Violation,
      (View.without hidden).notices (violation.notice schema.json value)
        (violation.notice schema.json value') :=
    fun hvalue violation => ⟨rfl, masks.sameBut hvalue⟩
  have hkeywords : ∀ keyword, isLookedAt keyword → Option.Rel
      ((Position.of keyword).Pairs ((Pairing.masked hidden alike).nodes path))
      (schema.member? keyword) (schema.member? keyword) := by
    intro keyword _
    cases schema.member? keyword with
    | none => exact .none
    | some node => exact .some (Position.pairs_self (self path) _ node)
  refine ⟨?_, hkeywords "type" (by decide)⟩
  constructor
  case keywords =>
    intro keyword constraint
    exact hkeywords keyword (isLookedAt_of_isConstraint constraint)
  case requiredNames => rfl
  case deeper => exact fun _ => id
  case akin =>
    rintro _ node _ rfl
    exact ⟨rfl, fun _ => rfl⟩
  case resembles => exact fun hvalue => omits ▸ masks.resembles hvalue
  case whole => simp [overlooks.enum, overlooks.uniqueItems]
  case needed =>
    intro members members' name hvalue hname homits
    rw [omits] at homits
    exact masks.has hvalue (overlooks.needed name hname homits) homits
  case seen => exact hseen
  case types =>
    intro named named' value value' htype htype' hvalue _
    cases htype.symm.trans htype'
    exact hseen hvalue _
  case omits => rfl
  case validateFormat => rfl
  case additionalItems =>
    exact fun _ => Position.pairs_self (self _) .either options.additionalItems
  case additionalProperties =>
    exact fun _ => Position.pairs_self (self _) .additional options.additionalProperties

/-- A reference is resolved in the same way whatever the value. -/
theorem reference_masked (masks : Json.Masks hidden watched alike) (hvalue : alike value value')
    (ref : Json) :
    Plan.Parallels (.masked hidden alike) (reference options root schema ref value path)
      (reference options root schema ref value' path) := by
  unfold reference
  split
  · exact .clean
  · split
    · exact .fault _
    · exact .report ⟨rfl, masks.sameBut hvalue⟩
    · exact .follow rfl hvalue

theorem node_masked (masks : Json.Masks hidden watched alike)
    (overlooks : schema.Overlooks hidden watched) (omits : options.omits = hidden)
    (hvalue : alike value value') :
    Plan.Parallels (.masked hidden alike) (node options root schema value path)
      (node options root schema value' path) := by
  have hcorresponds : Corresponds (.masked hidden alike) options options path schema schema :=
    corresponds_masked masks overlooks omits
  cases hobject : schema.json.isObject with
  | false => exact atom_parallels (hcorresponds.seen hvalue) hobject rfl
  | true =>
    refine hcorresponds.node_parallels hvalue hobject hobject ?_
    intro _ ref ref' href href'
    rw [href] at href'
    cases href'
    exact reference_masked masks hvalue ref.json

/-- Whether every node that a run would apply overlooks what is hidden. -/
def OverlooksThroughout (hidden : String → Bool) (watched : String → Prop) (options : Options)
    (root schema : Node) : Prop :=
  ∀ node, Applied root options schema node → node.Overlooks hidden watched

/-- Runs on values that differ in what is hidden only are in step. -/
theorem lockstep_masked (masks : Json.Masks hidden watched alike) :
    Lockstep (.masked hidden alike) (fun scope scope' => scope' = scope ∧
      scope.options.omits = hidden ∧ (View.without hidden).Bounds scope.options.hook)
      (OverlooksThroughout hidden watched) := by
  refine .of_same
    (fun options => options.omits = hidden ∧ (View.without hidden).Bounds options.hook)
    (fun ⟨_, bounds⟩ => bounds) (fun hlink => hlink) (fun _ => rfl) ?_ (fun _ hfits => hfits) ?_
  · rintro _ schema _ rfl
    rfl
  · rintro options root _ schema value value' path ⟨omits, _⟩ rfl overlooks hvalue
    -- What the plan goes on with is applied in the definitions of the node.
    exact (node_masked masks (overlooks schema (.self _ _)) omits hvalue).among
      fun node huses below happlied => overlooks below (.onward value path huses happlied)

end Check

/-- The names that are omitted. -/
def Options.omittedNames (options : Options) : List String :=
  Check.namesIn (.arr (options.omitProperties.getD []))

theorem Options.omits_iff (options : Options) (name : String) :
    options.omits name = true ↔ name ∈ options.omittedNames := by
  have hname : ∀ other : Json, isSameName (.str name) other = true ↔ other = .str name := by
    intro other
    rw [isSameName, beq_iff_eq]
    constructor
    · intro h
      have hkey := Json.text_injective h
      cases other with
      | float x =>
        unfold nameKey Json.canonical at hkey
        dsimp only at hkey
        split at hkey <;> cases hkey
      | _ => cases hkey <;> rfl
    · rintro rfl
      rfl
  rw [omittedNames, Check.mem_namesIn, omits]
  cases options.omitProperties with
  | none => simp
  | some names => simp [hname]

namespace Given

/-- Whether the options of a call omit a name. -/
def omits (given : Given) (name : String) : Bool :=
  match given.options with
  | .ok options => options.omits name
  | .error _ => false

def omittedNames (given : Given) : List String :=
  match given.options with
  | .ok options => options.omittedNames
  | .error _ => []

theorem omits_iff (given : Given) (name : String) :
    given.omits name = true ↔ name ∈ given.omittedNames := by
  unfold omits omittedNames
  cases given.options with
  | ok options => exact options.omits_iff name
  | error f => simp

end Given

/-- Validations of values that differ in what is omitted only, and not in the omitted names that
are watched, end alike. -/
theorem validate_masked {schema value value' : Json} {given : Given} {watched : String → Prop}
    {alike : Json → Json → Prop} (masks : Json.Masks given.omits watched alike)
    (overlooks : ∀ node, given.Applies schema node → node.Overlooks given.omits watched)
    (bounds : ∀ options, given.options = .ok options →
      (View.without given.omits).Bounds options.hook)
    (hvalue : alike value value') (heard : List Notice) :
    ((validate schema value given).on heard).1 = ((validate schema value' given).on heard).1 := by
  rcases hopening : opening? schema given with f | _ | opened
  · unfold validate validateWith
    rw [hopening]
    rfl
  · unfold validate validateWith
    rw [hopening]
    rfl
  · obtain ⟨options, hoptions, hopened⟩ := opening?_some hopening
    have homits : opened.omits = given.omits := by
      funext name
      rw [hopened, Given.omits, hoptions]
      rfl
    have hbounds : (View.without given.omits).Bounds opened.hook := hopened ▸ bounds options hoptions
    have hends := validate_parallels hopening hopening (fun budget budget' le =>
      (Check.lockstep_masked masks).descend le ⟨rfl, homits, hbounds⟩ rfl
        (fun node happlied => overlooks node ⟨opened, hopening, happlied⟩) hvalue)
      (List.forall₂_same.mpr fun (notice : Notice) (_ : notice ∈ heard) => ⟨rfl, rfl⟩)
    exact hends.answer.eq

/-- Omitted names matter only where a property needs another one by name. Where no omitted name
is needed, values that are the same without the omitted members have one outcome. And values
that have some value in common without them have one outcome exactly if it never matters to
give all objects all omitted names. -/
theorem omitted_names_matter_only_if_needed {schema : Json} {given : Given}
    (plain : ∀ node, given.Applies schema node →
      node.member? "enum" = none ∧ node.member? "uniqueItems" = none)
    (bounds : ∀ options, given.options = .ok options →
      (View.without given.omits).Bounds options.hook)
    (heard : List Notice) :
    ((∀ node, given.Applies schema node → ∀ name ∈ Check.neededNames node,
        given.omits name = false) →
      ∀ value value' : Json, value.without given.omits = value'.without given.omits →
        ((validate schema value given).on heard).1 =
          ((validate schema value' given).on heard).1) ∧
    ∀ bare : Json,
      (∀ value value' : Json, value.without given.omits = bare →
        value'.without given.omits = bare →
        ((validate schema value given).on heard).1 =
          ((validate schema value' given).on heard).1) ↔
      ∀ value : Json, value.without given.omits = bare →
        ((validate schema value given).on heard).1 =
          ((validate schema (value.granted given.omittedNames) given).on heard).1 := by
  constructor
  · intro unneeded value value' same
    refine validate_masked (Json.masks_sameBut given.omits) (fun node happlied => ?_) bounds
      same.symm heard
    refine ⟨(plain node happlied).1, (plain node happlied).2, fun name hname homits => ?_⟩
    rw [unneeded node happlied name hname] at homits
    cases homits
  · intro bare
    have hgranted : ∀ value : Json,
        (value.granted given.omittedNames).without given.omits = value.without given.omits :=
      Json.without_granted fun name hname => (given.omits_iff name).mpr hname
    constructor
    · intro same value hvalue
      exact same value _ hvalue ((hgranted value).trans hvalue)
    · intro granting value value' hvalue hvalue'
      have hboth : ((validate schema (value.granted given.omittedNames) given).on heard).1 =
          ((validate schema (value'.granted given.omittedNames) given).on heard).1 :=
        validate_masked (Json.masks_bothGranted given.omits_iff)
          (fun node happlied => ⟨(plain node happlied).1, (plain node happlied).2,
            fun _ _ _ => trivial⟩) bounds
          ⟨value, value', hvalue'.trans hvalue.symm, rfl, rfl⟩ heard
      rw [granting value hvalue, granting value' hvalue', hboth]

/-- Options that omit some names. -/
def Given.omitting (names : List String) : Given :=
  .settings (Options.settingsOf (.document .options
    (.obj [("omitProperties", .arr (names.map .str))])))

theorem omitted_names_matter_only_if_needed_nested :
    let schema := Json.obj [("required", .arr [.str "b", .str "c"]),
      ("properties", .obj [("a", .obj [("properties", .obj []),
        ("additionalProperties", .bool false)])]),
      ("dependencies", .obj [("b", .str "z"), ("a", .str "c")])]
    let value := Json.obj [("b", .int 1), ("a", .obj [("b", .int 2)])]
    let value' := Json.obj [("a", .obj [])]
    let given := Given.omitting ["b"]
    value.without given.omits = value'.without given.omits ∧
      Check.kindsOf ((validate schema value given).on []).1 = [.required, .dependency] ∧
      ((validate schema value given).on []).1 = ((validate schema value' given).on []).1 := by
  intro schema value value' given
  refine ⟨rfl, rfl, (omitted_names_matter_only_if_needed ?_ ?_ []).1 ?_ value value' rfl⟩
  · rintro node ⟨opened, hopening, happlied⟩
    cases hopening
    exact ⟨happlied.member?_eq_none rfl, happlied.member?_eq_none rfl⟩
  · intro options hoptions
    cases hoptions
    intro listens h
    cases h
  · rintro node ⟨opened, hopening, happlied⟩ name hname
    cases hopening
    let shows : Node → Bool := fun node =>
      (Check.neededNames node).all fun name => !given.omits name
    have hshows : shows node = true := by
      refine happlied.holds rfl fun node s htext => ?_
      simp [shows, Check.neededNames, Check.declaredDependencies, Node.member?, htext]
    simpa using List.all_eq_true.mp hshows name hname

/-- A property that needs an omitted one is the exception: whether it is there matters. -/
theorem needed_name_matters_though_omitted :
    let schema := Json.obj [("type", .str "object"), ("dependencies", .obj [("a", .str "b")])]
    let value := Json.obj [("a", .int 1)]
    let value' := Json.obj [("a", .int 1), ("b", .int 2)]
    let given := Given.omitting ["b"]
    ((Node.space [.document .schema schema]).all fun node =>
      (node.member? "enum").isNone && (node.member? "uniqueItems").isNone) ∧
    value.without given.omits = value'.without given.omits ∧
    (∃ violation, ((validate schema value given).on []).1 = .ok [violation] ∧
      violation.kind = .dependency) ∧
    ((validate schema value' given).on []).1 = .ok [] :=
  ⟨rfl, rfl, ⟨_, rfl, rfl⟩, rfl⟩

end JsonSchema
