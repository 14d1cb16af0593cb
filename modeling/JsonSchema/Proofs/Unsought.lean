import JsonSchema.Proofs.Expansion
import JsonSchema.Proofs.Lockstep
import JsonSchema.Proofs.Trace

/-! Names that nothing refers to. What a name is bound to makes no difference to a validation if
no reference is looked up by that name, wherever it stands in the schemas of the run. -/
namespace JsonSchema

namespace Json

mutual

/-- Whether some reference in a value is looked up by a name. -/
def seeks (name : String) : Json → Bool
  | .arr items => seeksItems name items
  | .obj members => seeksMembers name members
  | _ => false

def seeksItems (name : String) : List Json → Bool
  | [] => false
  | item :: rest => item.seeks name || seeksItems name rest

def seeksMembers (name : String) : List (String × Json) → Bool
  | [] => false
  | (keyword, value) :: rest =>
    keyword == "$ref" && (namesSought value).contains name || value.seeks name
      || seeksMembers name rest

end

variable {name : String}

theorem seeks_of_mem {items : List Json} (h : seeksItems name items = false) {item : Json}
    (hitem : item ∈ items) : item.seeks name = false := by
  induction items with
  | nil => cases hitem
  | cons head rest ih =>
    rw [seeksItems, Bool.or_eq_false_iff] at h
    rcases List.mem_cons.mp hitem with rfl | hrest
    · exact h.1
    · exact ih h.2 hrest

theorem seeks_of_mem_members {members : Members} (h : seeksMembers name members = false)
    {keyword : String} {value : Json} (hmember : (keyword, value) ∈ members) :
    value.seeks name = false ∧ (keyword = "$ref" → name ∉ namesSought value) := by
  induction members with
  | nil => cases hmember
  | cons head rest ih =>
    obtain ⟨other, first⟩ := head
    rw [seeksMembers, Bool.or_eq_false_iff, Bool.or_eq_false_iff] at h
    rcases List.mem_cons.mp hmember with heq | hrest
    · cases heq
      refine ⟨h.1.2, ?_⟩
      rintro rfl
      simpa using h.1.1
    · exact ih h.2 hrest

theorem Part.seeks {value part : Json} {step : Step} (h : value.Part step part)
    (unsought : value.seeks name = false) : part.seeks name = false := by
  cases h with
  | item hitem => exact seeks_of_mem unsought (List.mem_of_getElem? hitem)
  | member hmember => exact (seeks_of_mem_members unsought hmember).1

end Json

namespace Node

variable {name : String} {node inner : Node}

/-- What seeks no name does not do so anywhere inside. -/
theorem Inside.seeks (h : node.Inside inner) (unsought : node.json.seeks name = false) :
    inner.json.seeks name = false := by
  induction h with
  | self => exact unsought
  | deeper hchild _ ih =>
    obtain ⟨step, hpart⟩ := part_of_mem_children hchild
    exact ih (hpart.seeks unsought)

theorem not_sought {ref : Node} (unsought : node.json.seeks name = false)
    (h : node.member? "$ref" = some ref) : name ∉ namesSought ref.json := by
  unfold member? at h
  cases hjson : node.json with
  | obj members =>
    rw [hjson] at h unsought
    obtain ⟨value, hlookup, rfl⟩ := Option.map_eq_some_iff.mp h
    exact (Json.seeks_of_mem_members unsought (mem_of_lookup hlookup)).2 rfl
  | _ =>
    rw [hjson] at h
    cases h

end Node

/-- What a reference leads to depends on the names that it is looked up by. -/
theorem lookUp?_congr {ref : Json} {table table' : Definitions}
    (h : ∀ sought ∈ namesSought ref, table'.lookup sought = table.lookup sought)
    (root : Option Node) : lookUp? ref table' root = lookUp? ref table root := by
  cases ref with
  | str text =>
    unfold lookUp?
    dsimp only
    rw [h text (mem_namesSought text)]
    split
    · rfl
    · rename_i fragment _ hfragment
      split
      · rfl
      · rename_i tokens htokens
        have hdefined : ((Pointer.definitionName? tokens).bind fun name => table'.lookup name) =
            (Pointer.definitionName? tokens).bind fun name => table.lookup name := by
          cases hname : Pointer.definitionName? tokens with
          | none => rfl
          | some defined =>
            refine h defined ?_
            unfold namesSought
            dsimp only
            rw [hfragment]
            simp [htokens, hname]
        rw [hdefined]
    · rfl
  | _ => rfl

/-- Two tables bind all names but one to the same. -/
def Definitions.SameBut (name : String) (table table' : Definitions) : Prop :=
  ∀ other ≠ name, table'.lookup other = table.lookup other

namespace Definitions.SameBut

variable {name : String} {table table' : Definitions} (same : table.SameBut name table')
include same

/-- Tables that differ in one name only do so with the same names added. -/
theorem extend (extra : Definitions) : (table.extend extra).SameBut name (table'.extend extra) := by
  intro other hother
  rw [lookup_extend, lookup_extend, same other hother]

/-- A reference that is not looked up by the name leads to the same. -/
theorem resolve?_eq {ref : Json} (unsought : name ∉ namesSought ref) (root : Option Node) :
    resolve? ref table' root = resolve? ref table root := by
  rw [resolve?, resolve?, lookUp?_congr (fun sought hsought => same sought ?_) root]
  rintro rfl
  exact unsought hsought

end Definitions.SameBut

/-- The same options and the same scope with another table in force. -/
def Options.redefined (options : Options) (table : Definitions) : Options :=
  { options with definitions := table }

def Scope.redefined (scope : Scope) (table : Definitions) : Scope :=
  { scope with options := scope.options.redefined table }

theorem Scope.follow_redefined (scope : Scope) (table : Definitions) (link : Link) :
    (scope.redefined table).follow link = (scope.follow link).map (·.redefined table) := by
  unfold follow redefined
  dsimp only
  split <;> rfl

/-- Nothing looks alike but what is the same. -/
def View.same : View where
  notices := Eq
  violations := Eq
  of_notices h := h ▸ rfl

theorem View.same_bounds (hook : Option Hook) : View.same.Bounds hook := by
  intro listens _ notices notices' same
  have hsame : List.Forall₂ (· = ·) notices notices' := same
  rw [List.forall₂_eq_eq_eq] at hsame
  rw [hsame]

theorem View.Ends.eq {result result' : Answer × List Notice} (h : View.same.Ends result result') :
    result = result' := by
  have hheard : List.Forall₂ (· = ·) result.2 result'.2 := h.heard
  rw [List.forall₂_eq_eq_eq] at hheard
  exact Prod.ext h.answer.eq hheard

/-- Runs that go through the same nodes, none of which seeks a name. -/
def Pairing.unsought (name : String) : Pairing :=
  Pairing.among ⟨.same, fun _ => Eq, Eq, Eq⟩ fun node => node.json.seeks name = false

theorem Plan.parallels_self {name : String} {plan : Plan}
    (unsought : ∀ node, plan.Uses node → node.json.seeks name = false) :
    Plan.Parallels (.unsought name) plan plan := by
  refine Plan.Parallels.among ?_ unsought
  clear unsought
  induction plan with
  | clean => exact .clean
  | fault f => exact .fault f
  | report schema value path finding => exact .report rfl
  | both first second ihFirst ihSecond => exact .both ihFirst ihSecond
  | enter schema value path => exact .enter path rfl rfl
  | follow link value => exact .follow rfl rfl
  | probe branch next ihBranch ihNext => exact .probe ihBranch ihNext

/-- A name is sought in none of the nodes that the schemas of a scope are among. -/
def Scope.Unsought (name : String) (scope : Scope) : Prop :=
  ∃ tops, scope.Among tops ∧ ∀ top ∈ tops, top.json.seeks name = false

namespace Scope.Unsought

variable {name : String} {scope : Scope} {schema : Node} (h : scope.Unsought name)
  (hschema : schema.json.seeks name = false)
include h hschema

/-- The nodes that the schemas of a scope and one more are among. -/
theorem with_schema : ∃ tops, scope.Among tops ∧ Node.Among tops schema ∧
    ∀ top ∈ tops, top.json.seeks name = false := by
  obtain ⟨tops, among, unsought⟩ := h
  refine ⟨schema :: tops, among.mono (List.subset_cons_self schema tops),
    ⟨schema, List.mem_cons_self, .self schema⟩, ?_⟩
  exact List.forall_mem_cons.mpr ⟨hschema, unsought⟩

theorem declare : (scope.withDefinitions (Check.declared schema)).Unsought name := by
  obtain ⟨tops, among, hamong, unsought⟩ := h.with_schema hschema
  exact ⟨tops, among.declare (Guard.chain_wanes tops) hamong, unsought⟩

/-- What a node goes on with does not seek the name either. -/
theorem uses {value : Json} {path : Path} {inner : Node}
    (uses : (Check.node scope.options scope.root schema value path).Uses inner) :
    inner.json.seeks name = false := by
  obtain ⟨tops, among, hamong, unsought⟩ := h.with_schema hschema
  rcases Check.uses_among among (.inl hamong) uses with ⟨top, htop, hinside⟩ | ⟨s, htext⟩
  · exact hinside.seeks (unsought top htop)
  · rw [htext]
    rfl

end Scope.Unsought

namespace Check

/-- The table in force matters to a node only by what its reference leads to. -/
theorem node_redefined {options : Options} {root schema : Node} {value : Json} {path : Path}
    {table : Definitions} (h : ∀ ref, schema.member? "$ref" = some ref →
      resolve? ref.json table root = resolve? ref.json options.definitions root) :
    node (options.redefined table) root schema value path = node options root schema value path := by
  have href : ∀ ref, schema.member? "$ref" = some ref →
      reference (options.redefined table) root schema ref.json value path =
        reference options root schema ref.json value path := by
    intro ref hmember
    have hresolve : resolve? ref.json (options.redefined table).definitions root =
        resolve? ref.json options.definitions root := h ref hmember
    rw [reference, reference, hresolve]
    rfl
  unfold node governing
  cases hmember : schema.member? "$ref" with
  | none => rfl
  | some ref => simp only [href ref hmember]

/-- Where nothing seeks a name, runs with tables that are the same but for it are in step. -/
theorem lockstep_unsought (name : String) :
    Lockstep (.unsought name) (fun scope scope' => scope.Unsought name ∧ ∃ table,
      scope.options.definitions.SameBut name table ∧ scope' = scope.redefined table)
      fun _ _ _ => True := by
  constructor
  case hook => exact fun ⟨_, _, _, redefined⟩ => redefined ▸ rfl
  case bounds => exact fun _ => View.same_bounds _
  case maxDepth => exact fun ⟨_, _, _, redefined⟩ => redefined ▸ rfl
  case trials => exact fun ⟨_, _, _, redefined⟩ => redefined ▸ rfl
  case trial =>
    rintro scope _ ⟨⟨tops, among, unsought⟩, table, same, rfl⟩
    exact ⟨⟨tops, among.follow rfl rfl, unsought⟩, table, same, rfl⟩
  case target =>
    rintro link _ ⟨rfl, htarget⟩
    exact ⟨rfl, rfl, htarget⟩
  case follow =>
    rintro scope _ link _ ⟨⟨tops, among, unsought⟩, table, same, rfl⟩ ⟨rfl, _⟩
    rw [Scope.follow_redefined]
    cases hfollow : scope.follow link with
    | error f => exact .inl ⟨f, rfl, rfl⟩
    | ok next =>
      obtain ⟨_, rfl⟩ := Scope.follow_ok hfollow
      exact .inr ⟨_, _, rfl, rfl, ⟨tops, among.follow rfl rfl, unsought⟩, table, same, rfl⟩
  case declare =>
    rintro scope _ schema _ path ⟨unsought, table, same, rfl⟩ ⟨rfl, hschema⟩
    exact ⟨unsought.declare hschema, table.extend (declared schema), same.extend _, rfl⟩
  case plans =>
    rintro scope _ schema _ value _ path ⟨unsought, table, same, rfl⟩ ⟨rfl, hschema⟩ - rfl
    let inner := scope.withDefinitions (declared schema)
    have hsame : node (inner.options.redefined (table.extend (declared schema))) inner.root schema
        value path = node inner.options inner.root schema value path :=
      node_redefined fun ref hmember =>
        (same.extend _).resolve?_eq (Node.not_sought hschema hmember) inner.root
    change Plan.Parallels _ (node inner.options inner.root schema value path) (node
      (inner.options.redefined (table.extend (declared schema))) inner.root schema value path)
    rw [hsame]
    refine Plan.Parallels.among (Plan.parallels_self fun node huses => ?_) fun _ _ => trivial
    exact (unsought.declare hschema).uses hschema huses

end Check

/-- The same call with some definitions in place of its own. -/
def Given.defining (table : Node) : Given → Given
  | .absent => .settings [("definitions", .given table)]
  | .settings given => .settings (given ++ [("definitions", .given table)])
  | .built options => .built (options.redefined table.members)
  | .unusable json => .unusable json

namespace Options

theorem apply_definitions (options : Options) (settings : Normalized) {table : Node}
    {members : Members} (hjson : table.json = .obj members) :
    options.apply (assign .definitions (.given table) settings) =
      (options.apply (assign .definitions (.given ⟨.obj [], none⟩) settings)).map
        (·.redefined table.members) := by
  have hother (table : Node) (field : Field) (other : field ≠ .definitions) :=
    givenNode?_assign settings (.given table) other
  have homitted (table : Node) :
      omittedFor? (assign .definitions (.given table) settings) = omittedFor? settings := by
    funext current
    rw [omittedFor?, hother table .omitProperties (by decide)]
    rfl
  have hhook (table : Node) :
      hookFor? (assign .definitions (.given table) settings) = hookFor? settings := by
    funext current
    rw [hookFor?, lookup_assign, if_neg (by decide)]
    rfl
  have htable (table : Node) {members : Members} (hjson : table.json = .obj members)
      (current : Definitions) :
      tableFor? (assign .definitions (.given table) settings) current = .ok table.members := by
    rw [tableFor?, givenNode?, lookup_assign, if_pos rfl]
    change table? table = _
    rw [table?, hjson]
  simp only [apply, homitted, hhook, htable _ hjson, htable ⟨.obj [], none⟩ rfl, nodeFor, jsonFor,
    hother, ne_eq, reduceCtorEq, not_false_eq_true]
  cases omittedFor? settings options.omitProperties with
  | error f => rfl
  | ok omitted => cases hookFor? settings options.hook <;> rfl

theorem merge_definitions (options : Options) (settings : Settings) {table : Node}
    {members : Members} (hjson : table.json = .obj members) :
    options.merge (settings ++ [("definitions", .given table)]) =
      (options.merge (settings ++ [("definitions", .given ⟨.obj [], none⟩)])).map
        (·.redefined table.members) :=
  merge_append options settings rfl fun normalized => apply_definitions options normalized hjson

end Options

/-- Definitions make no difference to the options but for themselves. -/
theorem Given.options_defining (given : Given) {table : Node} {members : Members}
    (hjson : table.json = .obj members) :
    (given.defining table).options =
      (given.defining ⟨.obj [], none⟩).options.map (·.redefined table.members) := by
  cases given with
  | absent => exact Options.merge_definitions .standard [] hjson
  | settings settings => exact Options.merge_definitions .standard settings hjson
  | built options => rfl
  | unusable json => rfl

/-- A validation opens with the definitions of a call and those at the root. -/
theorem opening?_redefined {schema : Json} {given given' : Given} {options : Options}
    {table : Definitions} (hoptions : given.options = .ok options)
    (hoptions' : given'.options = .ok (options.redefined table)) :
    opening? schema given' = (opening? schema given).map (·.map
      (·.redefined (table.extend (Check.declared (.document .schema schema))))) := by
  cases schema with
  | obj members =>
    by_cases hnil : members = []
    · subst hnil
      rw [opening?_nil hoptions, opening?_nil hoptions']
      rfl
    · rw [opening?_of_ne_nil hoptions hnil, opening?_of_ne_nil hoptions' hnil]
      split <;> rfl
  | _ => rfl

/-- Where nothing seeks a name, validations with tables that are the same but for it end alike. -/
theorem validate_redefined {name : String} {schema value : Json} {given given' : Given}
    {options : Options} {table : Definitions} (hoptions : given.options = .ok options)
    (hoptions' : given'.options = .ok (options.redefined table))
    (same : options.definitions.SameBut name table)
    (unsought : (Scope.start options (.document .schema schema)).Unsought name)
    (heard : List Notice) :
    (validate schema value given).on heard = (validate schema value given').on heard := by
  let root := Node.document .schema schema
  have hopening' : opening? schema given' = (opening? schema given).map (·.map
      (·.redefined (table.extend (Check.declared root)))) := opening?_redefined hoptions hoptions'
  have hroot : root.json.seeks name = false := by
    obtain ⟨tops, among, htops⟩ := unsought
    obtain ⟨top, htop, hinside⟩ := among.root
    exact hinside.seeks (htops top htop)
  rcases hopening : opening? schema given with f | _ | opened
  · rw [validate, validate, validateWith, validateWith, hopening', hopening]
    rfl
  · rw [validate, validate, validateWith, validateWith, hopening', hopening]
    rfl
  · rw [hopening] at hopening'
    obtain ⟨found, hfound, rfl⟩ := opening?_some hopening
    cases hoptions.symm.trans hfound
    refine (validate_parallels hopening hopening' (fun budget budget' le => ?_)
      (List.forall₂_same.mpr fun (_ : Notice) _ => rfl)).eq
    exact (Check.lockstep_unsought name).descend le
      ⟨unsought.declare hroot, _, same.extend (Check.declared root), rfl⟩ ⟨rfl, hroot⟩ trivial rfl

/-- The entries of a table but for one name. -/
def Members.besides (name : String) (table : Members) : Members :=
  table.filter (!List.contains [name] ·.1)

theorem Definitions.sameBut_besides {name : String} {table table' : Members}
    (same : ∀ other ≠ name, table'.lookup other = table.lookup other) (address : Option Address) :
    SameBut name (Node.mk (.obj (table.besides name)) address).members
      (Node.mk (.obj table') address).members := by
  intro other hother
  rw [Node.lookup_members, Node.lookup_members]
  change (table'.lookup other).map _ = ((table.filter (!List.contains [name] ·.1)).lookup other).map _
  rw [Members.lookup_kept, if_neg (by simpa using hother), same other hother]
  rfl

/-- Nothing seeks a name where neither the root, nor what the options say about additional parts, nor
any other definition does. -/
theorem Scope.unsought_besides {name : String} {options : Options} {root : Node} {table : Members}
    {address : Option Address} (hroot : root.json.seeks name = false)
    (hproperties : options.additionalProperties.json.seeks name = false)
    (hitems : options.additionalItems.json.seeks name = false)
    (entries : ∀ other entry, (other, entry) ∈ table → other ≠ name → entry.seeks name = false) :
    (start (options.redefined (Node.mk (.obj (table.besides name)) address).members) root).Unsought
      name := by
  refine ⟨_, among_tops _, ?_⟩
  simp only [tops, List.forall_mem_cons]
  refine ⟨hroot, hitems, hproperties, ?_⟩
  intro top htop
  obtain ⟨⟨other, _⟩, hmember, rfl⟩ := List.mem_map.mp htop
  obtain ⟨⟨_, entry⟩, hentry, heq⟩ := List.mem_map.mp hmember
  cases heq
  exact entries other entry (List.mem_of_mem_filter hentry) (by simpa using List.of_mem_filter hentry)

/-- A name of the definitions of a call to which nothing refers makes no difference. If no reference
is looked up by a name, in the schema, in the other definitions, or in what the options say about
additional properties and items, then a validation is the same whatever the name is bound to, if it
is bound at all, and whether or not schemas inside declare the name. -/
theorem validate_unsought {name : String} {schema value : Json} {given : Given}
    {address : Option Address} {table table' : Members}
    (others : ∀ other ≠ name, table'.lookup other = table.lookup other)
    (unsought : schema.seeks name = false)
    (entries : ∀ other entry, (other, entry) ∈ table → other ≠ name → entry.seeks name = false)
    (additional : ∀ options, (given.defining ⟨.obj table, address⟩).options = .ok options →
      options.additionalProperties.json.seeks name = false ∧
        options.additionalItems.json.seeks name = false)
    (heard : List Notice) :
    (validate schema value (given.defining ⟨.obj table, address⟩)).on heard =
      (validate schema value (given.defining ⟨.obj table', address⟩)).on heard := by
  have hdefined (table : Members) : (given.defining ⟨.obj table, address⟩).options = _ :=
    given.options_defining rfl
  cases hbase : (given.defining ⟨.obj [], none⟩).options with
  | error f =>
    have hsame : (given.defining ⟨.obj table, address⟩).options =
        (given.defining ⟨.obj table', address⟩).options := by
      rw [hdefined, hdefined, hbase]
      rfl
    rw [validate_congr hsame]
  | ok base =>
    have hoptions (table : Members) : (given.defining ⟨.obj table, address⟩).options =
        .ok (base.redefined (Node.mk (.obj table) address).members) := by
      rw [hdefined, hbase]
      rfl
    obtain ⟨hproperties, hitems⟩ := additional _ (hoptions table)
    -- Nothing seeks the name where it is not bound, and both tables are the same but for it.
    have hbesides {table' : Members} (same : ∀ other ≠ name, table'.lookup other = table.lookup other) :
        (validate schema value (given.defining ⟨.obj (table.besides name), address⟩)).on heard =
          (validate schema value (given.defining ⟨.obj table', address⟩)).on heard :=
      validate_redefined (hoptions _) (hoptions table') (Definitions.sameBut_besides same address)
        (Scope.unsought_besides unsought hproperties hitems entries) heard
    exact (hbesides fun _ _ => rfl).symm.trans (hbesides others)

theorem validate_unsought_declared_inside :
    let schema := Json.obj [
      ("definitions", .obj [("m", .obj [("type", .str "integer")])]),
      ("properties", .obj [("a", .obj [
        ("definitions", .obj [("n", .obj [("type", .str "null")])]), ("$ref", .str "k")])])]
    let entry := Json.obj [("properties", .obj [("x", .obj [("$ref", .str "#/definitions/m")])])]
    let value := Json.obj [("a", .obj [("x", .str "s")])]
    let outcome (table : Members) :=
      (validate schema value (Given.absent.defining ⟨.obj table, none⟩)).on []
    schema.seeks "n" = false ∧ entry.seeks "n" = false ∧
      Check.kindsOf (outcome [("k", entry)]).1 = [.type] ∧
      ∀ bound : Json, outcome [("k", entry)] = outcome [("k", entry), ("n", bound)] := by
  intro schema entry value outcome
  refine ⟨rfl, rfl, rfl, fun bound => ?_⟩
  have others : ∀ other ≠ "n", List.lookup other [("k", entry), ("n", bound)] =
      List.lookup other [("k", entry)] := by
    intro other hother
    rw [← beq_eq_false_iff_ne] at hother
    simp [List.lookup_cons, hother]
  refine validate_unsought others rfl ?_ ?_ []
  · rintro other _ hmem -
    cases List.mem_singleton.mp hmem
    rfl
  · rintro options hoptions
    cases hoptions
    exact ⟨rfl, rfl⟩

/-- A name matters where what the options say about additional properties refers to it. -/
theorem unsought_names_matter_to_options :
    let schema := Json.obj [("type", .str "object")]
    let value := Json.obj [("a", .int 1)]
    let settings : Options.Settings :=
      [("additionalProperties", .given (.document .options (.obj [("$ref", .str "n")])))]
    let outcome (table : Members) :=
      (validate schema value ((Given.settings settings).defining ⟨.obj table, none⟩)).on []
    schema.seeks "n" = false ∧ (outcome [("n", .obj [])]).1 = .ok [] ∧
      Check.kindsOf (outcome []).1 = [.ref] :=
  ⟨rfl, rfl, rfl⟩

end JsonSchema
