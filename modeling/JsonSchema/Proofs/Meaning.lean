import JsonSchema.Check.Node

/-! What a schema means, without lists of violations: a condition on the value, made of
plain facts and of other schemas that the value or a part of it is to meet. References may
lead in circles, so a condition is decided by a derivation, and one that leads only back to
itself is not decided at all. -/
namespace JsonSchema

inductive Condition where
  | fact (holds : Prop)
  | meets (schema : Node) (value : Json)
  | all (conditions : List Condition)
  | any (conditions : List Condition)
  | one (conditions : List Condition)

namespace Meaning

/-- The named schemas under a keyword that holds an object. -/
def table? (schema : Node) (keyword : String) : Option (List (String × Node)) :=
  ((schema.member? keyword).filter (·.json.isObject)).map Node.members

def table (schema : Node) (keyword : String) : List (String × Node) :=
  (table? schema keyword).getD []

/-- A count keeps to the limits that are numbers. -/
structure CountWithin (schema : Node) (least most : String) (count : Nat) : Prop where
  low : (schema.value least).isNumber → ¬ (Json.int count).lt (schema.value least)
  high : (schema.value most).isNumber → ¬ (schema.value most).lt (.int count)

/-- A bound marked as exclusive is open, and so is one in place of the mark. -/
structure NumberWithin (schema : Node) (value : Json) : Prop where
  multiple (divisor : Node) :
    schema.member? "multipleOf" = some divisor → value.isMultipleOf divisor.json
  above : (schema.value "minimum").isNumber → ¬ (schema.value "exclusiveMinimum").isTrue →
    ¬ value.lt (schema.value "minimum")
  strictlyAbove : (schema.value "minimum").isNumber → (schema.value "exclusiveMinimum").isTrue →
    ¬ value.le (schema.value "minimum")
  aboveOpen : (schema.value "exclusiveMinimum").isNumber →
    ¬ value.le (schema.value "exclusiveMinimum")
  below : (schema.value "maximum").isNumber → ¬ (schema.value "exclusiveMaximum").isTrue →
    ¬ (schema.value "maximum").lt value
  strictlyBelow : (schema.value "maximum").isNumber → (schema.value "exclusiveMaximum").isTrue →
    ¬ (schema.value "maximum").le value
  belowOpen : (schema.value "exclusiveMaximum").isNumber →
    ¬ (schema.value "exclusiveMaximum").le value

/-- Whether a text is a pattern that is found in another. -/
def occurs (text s : String) : Bool :=
  match (Pattern.ofText? text).bind (·.foundIn s) with
  | .ok found => found
  | .error _ => false

/-- Formats count only if the options ask for it. -/
structure TextWithin (options : Options) (schema : Node) (s : String) : Prop where
  pattern (pattern : Node) :
    schema.member? "pattern" = some pattern → ∃ text, pattern.json = .str text ∧ occurs text s
  format (name : Node) : options.validateFormat.isOn → schema.member? "format" = some name →
    ∃ format, Check.formatNamed? name.json = some format ∧ format.accepts s = .ok true
  length : CountWithin schema "minLength" "maxLength" s.length

/-- What is asked of a part of a value. -/
inductive Demand where
  | nothing
  | absence
  | schema (node : Node)
  | choice (nodes : List Node)

def Demand.condition (value : Json) : Demand → Condition
  | .nothing => .fact True
  | .absence => .fact False
  | .schema node => .meets node value
  | .choice nodes => .any (nodes.map (.meets · value))

def additionalItem (additional : Node) : Demand :=
  match additional.json with
  | .null | .bool true => .nothing
  | .bool false => .absence
  | .arr _ => .choice additional.items
  | _ => .schema additional

/-- The one demand that its index gives an element. Where no items are described, only a
schema for additional ones demands something. -/
def element (options : Options) (schema : Node) (i : Nat) : Demand :=
  let additional := (schema.member? "additionalItems").getD options.additionalItems
  match schema.member? "items" with
  | some items =>
    if items.json.isArray then
      match items.items[i]? with
      | some node => .schema node
      | none => additionalItem additional
    else .schema items
  | none =>
    match additional.json with
    | .null | .bool _ => .nothing
    | _ => additionalItem additional

def array (options : Options) (schema : Node) (elements : List Json) : Condition :=
  .all (
    .fact (CountWithin schema "minItems" "maxItems" elements.length ∧
      ((schema.value "uniqueItems").isTrue → elements.Pairwise fun a b => ¬ a.same b))
    :: elements.zipIdx.map fun (item, i) => (element options schema i).condition item)

/-- A table of schemas by name allows only its names; anything else is one schema. -/
def additionalProperty (additional : Node) (name : String) : Demand :=
  match additional.json with
  | .null | .bool true => .nothing
  | .bool false => .absence
  | json =>
    if json.isObject && !isSchemaLike json then
      match additional.member? name with
      | some node => .schema node
      | none => .absence
    else .schema additional

/-- The schema of the first pattern that is found in a name, unless that is null. -/
def firstPattern? (patterns : List (String × Node)) (name : String) : Option Node :=
  ((patterns.find? fun (text, _) => occurs text name).map (·.2)).filter (!·.isNull)

/-- The one demand that its name gives a property. -/
def property (options : Options) (schema : Node) (name : String) : Demand :=
  match (table schema "properties").lookup name with
  | some node => .schema node
  | none =>
    match firstPattern? (table schema "patternProperties") name with
    | some node => .schema node
    | none =>
      match schema.member? "additionalProperties", table? schema "patternProperties" with
      | some additional, _ => additionalProperty additional name
      | none, some _ => .absence
      | none, none => additionalProperty options.additionalProperties name

/-- A property is required by the schema of the object, or by its own. -/
def Requires (schema : Node) (name : String) : Prop :=
  (∃ names, schema.value "required" = .arr names ∧ .str name ∈ names) ∨
    ∃ node, (name, node) ∈ table schema "properties" ∧ (node.value "required").isTrue

/-- What a property that is there asks of the whole object. -/
def dependency (members : Members) (target : Node) : Condition :=
  match target.json with
  | .str name => .fact (Members.has members name)
  | .obj _ => .meets target (.obj members)
  | _ => .fact False

def dependencies (options : Options) (schema : Node) (members : Members) : Condition :=
  .all ((table schema "dependencies").map fun (owner, declared) =>
    if Members.has members owner && !options.omits owner then
      .all ((if declared.json.isArray then declared.items else [declared]).map
        (dependency members))
    else .fact True)

/-- Omitted properties neither count nor are looked at. -/
def object (options : Options) (schema : Node) (members : Members) : Condition :=
  let kept := members.filter fun (name, _) => !options.omits name
  .all [
    .fact (CountWithin schema "minProperties" "maxProperties" kept.length ∧
      ∀ name, Requires schema name → Members.has members name ∨ options.omits name),
    dependencies options schema members,
    .all ((table schema "patternProperties").map fun (text, _) =>
      .fact (∃ pattern, Pattern.ofText? text = .ok pattern)),
    .all (kept.map fun (name, value) => (property options schema name).condition value)]

def ofType (options : Options) (schema : Node) (value : Json) : SchemaType → Condition
  | .any => .fact True
  | .null => .fact (value = .null)
  | .boolean => .fact (∃ b, value = .bool b)
  | .number => .fact (value.isNumber ∧ NumberWithin schema value)
  | .integer => .fact (value.isIntegral ∧ NumberWithin schema value)
  | .string => .fact (∃ s, value = .str s ∧ TextWithin options schema s)
  | .array =>
    match value with
    | .arr elements => array options schema elements
    | _ => .fact False
  | .object =>
    match value with
    | .obj members => object options schema members
    | _ => .fact False

def namedType (options : Options) (schema : Node) (value : Json) (type : Node) : Condition :=
  match type.json with
  | .str name =>
    match SchemaType.ofName? name with
    | some type => ofType options schema value type
    | none => .fact False
  | _ => .fact False

/-- The declared type, or the one that goes with the keywords of an object or an array. -/
def typeOf? (schema : Node) : Option Node :=
  match schema.member? "type" with
  | some type => some type
  | none =>
    if (schema.member? "properties").isSome then some ⟨.str "object", none⟩
    else if (schema.member? "items").isSome then some ⟨.str "array", none⟩
    else none

/-- Of a list of types one is enough; a schema in their place is met as a whole. -/
def typed (options : Options) (schema : Node) (value : Json) : Condition :=
  match (typeOf? schema).filter (!·.isNull) with
  | none => .fact True
  | some type =>
    if type.json.isArray then
      .any (type.items.map fun member =>
        if member.json.isObject then .meets member value
        else namedType options schema value member)
    else namedType options schema value type

/-- A combination of the schemas in a list; what is no list is met by nothing. -/
def combined (combine : List Condition → Condition) (value : Json) (members : Node) : Condition :=
  if members.json.isArray then combine (members.items.map (.meets · value)) else .fact False

def reference (options : Options) (root : Node) (value : Json) (ref : Node) : Condition :=
  if options.omitRefs.isOn then .fact True
  else
    match resolve? ref.json options.definitions root with
    | .ok (some target) => .meets target value
    | _ => .fact False

/-- What a node asks of a value with the definitions of the options in force: the first
keyword of a list that it has decides, and its type if it has none of them. -/
def node (options : Options) (root schema : Node) (value : Json) : Condition :=
  match schema.json with
  | .null | .obj [] => .fact True
  | .obj _ =>
    ((schema.member? "enum").map fun members =>
        .fact (∃ allowed, members.json = .arr allowed ∧ ∃ member ∈ allowed, member.same value))
      |>.or ((schema.member? "oneOf").map (combined .one value))
      |>.or ((schema.member? "allOf").map (combined .all value))
      |>.or ((schema.member? "anyOf").map (combined .any value))
      |>.or ((schema.member? "$ref").map (reference options root value))
      |>.getD (typed options schema value)
  | _ => .fact False

end Meaning

/-- Whether a condition is met, with the definitions of the options in force. A node adds
the definitions that it holds, except for names that are bound. -/
inductive Decides (root : Node) : Options → Condition → Bool → Prop
  | fact_true {options : Options} {p : Prop} : p → Decides root options (.fact p) true
  | fact_false {options : Options} {p : Prop} : ¬ p → Decides root options (.fact p) false
  | meets {options inner : Options} {schema : Node} {value : Json} {met : Bool} :
      inner = options.withDefinitions (Meaning.table schema "definitions") →
      Decides root inner (Meaning.node inner root schema value) met →
      Decides root options (.meets schema value) met
  | all_true {options : Options} {conditions : List Condition} :
      (∀ condition ∈ conditions, Decides root options condition true) →
      Decides root options (.all conditions) true
  | all_false {options : Options} {conditions : List Condition} {condition : Condition} :
      condition ∈ conditions → Decides root options condition false →
      Decides root options (.all conditions) false
  | any_true {options : Options} {conditions : List Condition} {condition : Condition} :
      condition ∈ conditions → Decides root options condition true →
      Decides root options (.any conditions) true
  | any_false {options : Options} {conditions : List Condition} :
      (∀ condition ∈ conditions, Decides root options condition false) →
      Decides root options (.any conditions) false
  | one {options : Options} (decided : List (Condition × Bool)) :
      (∀ pair ∈ decided, Decides root options pair.1 pair.2) →
      Decides root options (.one (decided.map (·.1))) (decided.countP (·.2) == 1)

namespace Decides

variable {root : Node} {options : Options} {conditions : List Condition}

theorem one_unique {decided decided' : List (Condition × Bool)}
    (same : decided.map (·.1) = decided'.map (·.1))
    (unique : ∀ pair ∈ decided, ∀ met, (pair.1, met) ∈ decided' → met = pair.2) :
    decided' = decided := by
  induction decided generalizing decided' with
  | nil =>
    cases decided' with
    | nil => rfl
    | cons head rest => cases same
  | cons head rest ih =>
    cases decided' with
    | nil => cases same
    | cons head' rest' =>
      obtain ⟨condition, met⟩ := head
      obtain ⟨condition', met'⟩ := head'
      rw [List.map_cons, List.map_cons, List.cons.injEq] at same
      obtain ⟨rfl, hrest⟩ := same
      have hmet : met' = met := unique _ List.mem_cons_self met' List.mem_cons_self
      rw [hmet, ih hrest fun pair hpair met hmem =>
        unique pair (List.mem_cons_of_mem _ hpair) met (List.mem_cons_of_mem _ hmem)]

/-- A condition is not both met and missed. -/
theorem unique {condition : Condition} {met met' : Bool} (h : Decides root options condition met)
    (h' : Decides root options condition met') : met = met' := by
  induction h generalizing met' with
  | fact_true hp =>
    cases h' with
    | fact_true => rfl
    | fact_false hn => exact absurd hp hn
  | fact_false hn =>
    cases h' with
    | fact_true hp => exact absurd hp hn
    | fact_false => rfl
  | meets hinner _ ih =>
    cases h' with
    | meets hinner' h =>
      subst hinner hinner'
      exact ih h
  | all_true _ ih =>
    cases h' with
    | all_true => rfl
    | all_false hmem h => exact ih _ hmem h
  | all_false hmem _ ih =>
    cases h' with
    | all_true h => exact ih (h _ hmem)
    | all_false => rfl
  | any_true hmem _ ih =>
    cases h' with
    | any_true => rfl
    | any_false h => exact ih (h _ hmem)
  | any_false _ ih =>
    cases h' with
    | any_true hmem h => exact ih _ hmem h
    | any_false => rfl
  | one decided hdecided ih =>
    generalize hconditions : decided.map (·.1) = conditions at h'
    cases h' with
    | one decided' h =>
      rw [one_unique hconditions fun pair hpair met hmem =>
        (ih pair hpair (h (pair.1, met) hmem)).symm]

end Decides

end JsonSchema
