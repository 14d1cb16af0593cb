import JsonSchema.Number.Digits
import JsonSchema.Number.Quantity

/-! JSON values. An integer and a floating-point number stay apart, as they do in the
text they came from, and an object keeps its members in order. -/
namespace JsonSchema

inductive Json where
  | null
  | bool (b : Bool)
  | int (n : Int)
  | float (x : Double)
  | str (s : String)
  | arr (items : List Json)
  | obj (members : List (String × Json))

abbrev Members := List (String × Json)

namespace Members

/-- The keys, in order. -/
def keys (members : Members) : List String :=
  members.map (·.1)

def values (members : Members) : List Json :=
  members.map (·.2)

def has (members : Members) (name : String) : Bool :=
  members.any (·.1 == name)

/-- Gives `name` a value: in place where the name is bound, else at the end. -/
def put (name : String) (value : Json) : Members → Members
  | [] => [(name, value)]
  | (k, v) :: rest => if k == name then (k, value) :: rest else (k, v) :: put name value rest

theorem has_eq_isSome_lookup (members : Members) (name : String) :
    has members name = (members.lookup name).isSome := by
  induction members with
  | nil => rfl
  | cons head rest ih =>
    obtain ⟨k, v⟩ := head
    by_cases h : k = name
    · simp [has, h]
    · have hk : (name == k) = false := by simp [Ne.symm h]
      simp [has, List.lookup_cons, h, hk, ← ih]

@[simp] theorem lookup_put (name : String) (value : Json) (members : Members) (key : String) :
    (put name value members).lookup key =
      if key == name then some value else members.lookup key := by
  induction members with
  | nil =>
    simp only [put, List.lookup_cons, List.lookup_nil]
    split <;> simp_all
  | cons head rest ih =>
    obtain ⟨k, v⟩ := head
    by_cases h : k = name
    · subst h
      simp only [put, beq_self_eq_true, ↓reduceIte, List.lookup_cons]
      split <;> simp_all
    · simp only [put, beq_iff_eq, h, ↓reduceIte, List.lookup_cons, ih]
      split <;> simp_all

end Members

namespace Json

/-- What a value is, with integers and other numbers told apart. -/
def kindName : Json → String
  | .null => "null"
  | .bool _ => "boolean"
  | .int _ => "integer"
  | .float _ => "number"
  | .str _ => "string"
  | .arr _ => "array"
  | .obj _ => "object"

def isObject : Json → Bool
  | .obj _ => true
  | _ => false

def isArray : Json → Bool
  | .arr _ => true
  | _ => false

/-- A boolean is not a number. -/
def isNumber : Json → Bool
  | .int _ | .float _ => true
  | _ => false

/-- A number without a fractional part, however it is written. -/
def isIntegral : Json → Bool
  | .int _ => true
  | .float x => x.toInt?.isSome
  | _ => false

/-- The exact value of a number; a NaN and whatever is no number have none. -/
def quantity? : Json → Option Quantity
  | .int n => some (.exact (n : Rat))
  | .float x => x.quantity?
  | _ => none

/-- The value of the decimal text of a number. -/
def decimal? : Json → Option Rat
  | .int n => some (n : Rat)
  | .float x => x.decimal?
  | _ => none

def isTrue : Json → Bool
  | .bool true => true
  | _ => false

/-- Whether a value counts as switched on: everything but null, false, zero and what is
empty does. -/
def isOn : Json → Bool
  | .null => false
  | .bool b => b
  | .int n => n ≠ 0
  | .float x => x.toInt? ≠ some 0
  | .str s => !s.isEmpty
  | .arr items => !items.isEmpty
  | .obj members => !members.isEmpty

mutual

/-- How deeply arrays and objects are nested. -/
def depth : Json → Nat
  | .arr items => depthItems items + 1
  | .obj members => depthMembers members + 1
  | _ => 0

def depthItems : List Json → Nat
  | [] => 0
  | item :: rest => max item.depth (depthItems rest)

def depthMembers : List (String × Json) → Nat
  | [] => 0
  | (_, value) :: rest => max value.depth (depthMembers rest)

end

mutual

/-- How many values there are in a value, itself included. -/
def size : Json → Nat
  | .arr items => sizeItems items + 1
  | .obj members => sizeMembers members + 1
  | _ => 1

def sizeItems : List Json → Nat
  | [] => 0
  | item :: rest => item.size + sizeItems rest

def sizeMembers : List (String × Json) → Nat
  | [] => 0
  | (_, value) :: rest => value.size + sizeMembers rest

end

end Json

end JsonSchema
