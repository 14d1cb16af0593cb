import Mathlib.Data.Rat.Cast.Order
import Mathlib.Order.Interval.Set.Defs
import Mathlib.Order.WithBot
import JsonSchema.Proofs.Typed
import JsonSchema.Proofs.Visits

/-! The bounds of a node describe an interval. Each keyword stands for a half-line of the exact
numbers with an infinity at either end, or for no restriction, and what is found wrong with a
number is which half-lines it lies outside of. -/
namespace JsonSchema

/-- The exact numbers, with an infinity at either end. -/
abbrev Extended := WithBot (WithTop ℚ)

namespace Quantity

def extended : Quantity → Extended
  | .minusInfinity => ⊥
  | .exact q => (q : WithTop ℚ)
  | .plusInfinity => ⊤

theorem lt_iff (a b : Quantity) : a.lt b ↔ a.extended < b.extended := by
  cases a <;> cases b <;> simp [lt, extended, lt_top_iff_ne_top]

theorem le_iff (a b : Quantity) : a.le b ↔ a.extended ≤ b.extended := by
  cases a <;> cases b <;> simp [le, extended]

end Quantity

namespace Json

/-- The exact value of a number that is not a NaN. -/
def extended? (json : Json) : Option Extended :=
  json.quantity?.map Quantity.extended

section

variable {a b : Json} {x y : Extended}

theorem lt_iff (ha : a.extended? = some x) (hb : b.extended? = some y) : a.lt b ↔ x < y := by
  obtain ⟨p, hp, rfl⟩ := Option.map_eq_some_iff.mp ha
  obtain ⟨q, hq, rfl⟩ := Option.map_eq_some_iff.mp hb
  rw [lt, hp, hq]
  exact p.lt_iff q

theorem le_iff (ha : a.extended? = some x) (hb : b.extended? = some y) : a.le b ↔ x ≤ y := by
  obtain ⟨p, hp, rfl⟩ := Option.map_eq_some_iff.mp ha
  obtain ⟨q, hq, rfl⟩ := Option.map_eq_some_iff.mp hb
  rw [le, hp, hq]
  exact p.le_iff q

theorem isNumber_of_extended? (ha : a.extended? = some x) : a.isNumber := by
  obtain ⟨q, hq, -⟩ := Option.map_eq_some_iff.mp ha
  cases a with
  | int | float => rfl
  | _ => cases hq

/-- Every number but a NaN has an exact value. -/
theorem exists_extended? (number : a.isNumber) (proper : a ≠ .float .nan) :
    ∃ x, a.extended? = some x := by
  cases a with
  | int n => exact ⟨_, rfl⟩
  | float x =>
    cases x with
    | nan => exact absurd rfl proper
    | infinity negative => cases negative <;> exact ⟨_, rfl⟩
    | finite negative rank => exact ⟨_, rfl⟩
  | _ => cases number

/-- What has no exact value is neither below nor above anything. -/
theorem incomparable (hb : b.extended? = none) (a : Json) :
    a.lt b = false ∧ a.le b = false ∧ b.lt a = false ∧ b.le a = false := by
  have hnone := Option.map_eq_none_iff.mp hb
  unfold lt le
  rw [hnone]
  cases a.quantity? <;> exact ⟨rfl, rfl, rfl, rfl⟩

end

end Json

inductive Side where
  | lower
  | upper
deriving DecidableEq

def Side.keyword : Side → String
  | .lower => "minimum"
  | .upper => "maximum"

/-- The keyword that marks the bound of a side as open, or is an open bound itself. -/
def Side.exclusiveKeyword : Side → String
  | .lower => "exclusiveMinimum"
  | .upper => "exclusiveMaximum"

/-- Everything above or below a limit, which belongs to it unless it is open. -/
structure HalfLine where
  side : Side
  isOpen : Bool
  limit : Extended

namespace HalfLine

def set : HalfLine → Set Extended
  | ⟨.lower, false, limit⟩ => .Ici limit
  | ⟨.lower, true, limit⟩ => .Ioi limit
  | ⟨.upper, false, limit⟩ => .Iic limit
  | ⟨.upper, true, limit⟩ => .Iio limit

instance (x : Extended) (line : HalfLine) : Decidable (x ∈ line.set) :=
  match line with
  | ⟨.lower, false, limit⟩ => inferInstanceAs (Decidable (limit ≤ x))
  | ⟨.lower, true, limit⟩ => inferInstanceAs (Decidable (limit < x))
  | ⟨.upper, false, limit⟩ => inferInstanceAs (Decidable (x ≤ limit))
  | ⟨.upper, true, limit⟩ => inferInstanceAs (Decidable (x < limit))

/-- How it is called to lie outside. -/
def kind : HalfLine → Kind
  | ⟨.lower, false, _⟩ => .minimum
  | ⟨.lower, true, _⟩ => .exclusiveMinimum
  | ⟨.upper, false, _⟩ => .maximum
  | ⟨.upper, true, _⟩ => .exclusiveMaximum

end HalfLine

/-- The two styles of a bound: under its own keyword, where another one may mark it as open, or
in the place of the mark, where it is always open. -/
inductive Style where
  | marked
  | standing
deriving DecidableEq

namespace Node

def bound (schema : Node) (side : Side) : Style → Json
  | .marked => schema.value side.keyword
  | .standing => schema.value side.exclusiveKeyword

def boundIsOpen (schema : Node) (side : Side) : Style → Bool
  | .marked => (schema.value side.exclusiveKeyword).isTrue
  | .standing => true

/-- The half-line that a bound denotes. What is no number denotes none. -/
def halfLine? (schema : Node) (side : Side) (style : Style) : Option HalfLine :=
  (schema.bound side style).extended?.map (⟨side, schema.boundIsOpen side style, ·⟩)

/-- The bounds that there can be, in the order in which they are looked at. -/
def bounds : List (Side × Style) :=
  [(.lower, .marked), (.lower, .standing), (.upper, .marked), (.upper, .standing)]

/-- What satisfies all bounds of a node. -/
def interval (schema : Node) : Set Extended :=
  ⋂ (side : Side) (style : Style) (line ∈ schema.halfLine? side style), line.set

/-- What is found wrong with a number by one bound. -/
def outside? (schema : Node) (x : Extended) (side : Side) (style : Style) : Option Finding :=
  ((schema.halfLine? side style).filter (x ∉ ·.set)).map fun line =>
    { kind := line.kind, details := [(side.keyword, schema.bound side style)] }

section

variable {schema : Node} {side : Side} {style : Style}

theorem outside?_of_none (h : (schema.bound side style).extended? = none) (x : Extended) :
    schema.outside? x side style = none := by
  rw [outside?, halfLine?, h]
  rfl

theorem outside?_of_some {limit : Extended} {isOpen broken : Bool} {x : Extended}
    (h : (schema.bound side style).extended? = some limit)
    (hopen : schema.boundIsOpen side style = isOpen)
    (hbroken : broken ↔ x ∉ HalfLine.set ⟨side, isOpen, limit⟩) :
    schema.outside? x side style =
      if broken then
        some { kind := HalfLine.kind ⟨side, isOpen, limit⟩
               details := [(side.keyword, schema.bound side style)] }
      else none := by
  rw [outside?, halfLine?, h, Option.map_some, hopen]
  cases broken <;> simp_all

theorem outside?_eq_none_iff (x : Extended) :
    schema.outside? x side style = none ↔ ∀ line ∈ schema.halfLine? side style, x ∈ line.set := by
  simp [outside?, Option.filter_eq_none_iff]

theorem mem_interval_iff (x : Extended) :
    x ∈ schema.interval ↔ ∀ side style, schema.outside? x side style = none := by
  simp [interval, outside?_eq_none_iff]

end

end Node

namespace Check

section

variable {value : Json} {x : Extended} (exact : value.extended? = some x) (schema : Node)
include exact

theorem minimum_eq : minimum schema value = schema.outside? x .lower .marked := by
  have hkeyword : schema.value "minimum" = schema.bound .lower .marked := rfl
  have hmark : (schema.value "exclusiveMinimum").isTrue = schema.boundIsOpen .lower .marked := rfl
  unfold minimum
  rw [hkeyword, hmark]
  cases hbound : (schema.bound .lower .marked).extended? with
  | none =>
    obtain ⟨hlt, hle, -, -⟩ := Json.incomparable hbound value
    simp [Node.outside?_of_none hbound, hlt, hle]
  | some limit =>
    have hnumber := Json.isNumber_of_extended? hbound
    cases hopen : schema.boundIsOpen .lower .marked with
    | true =>
      rw [Node.outside?_of_some hbound hopen ((Json.le_iff exact hbound).trans not_lt.symm)]
      simp [hnumber, HalfLine.kind, Side.keyword]
    | false =>
      rw [Node.outside?_of_some hbound hopen ((Json.lt_iff exact hbound).trans not_le.symm)]
      simp [hnumber, HalfLine.kind, Side.keyword]

theorem exclusiveMinimum_eq :
    exclusiveMinimum schema value = schema.outside? x .lower .standing := by
  have hkeyword : schema.value "exclusiveMinimum" = schema.bound .lower .standing := rfl
  unfold exclusiveMinimum
  rw [hkeyword]
  cases hbound : (schema.bound .lower .standing).extended? with
  | none =>
    obtain ⟨-, hle, -, -⟩ := Json.incomparable hbound value
    simp [Node.outside?_of_none hbound, hle]
  | some limit =>
    rw [Node.outside?_of_some hbound rfl ((Json.le_iff exact hbound).trans not_lt.symm)]
    simp [Json.isNumber_of_extended? hbound, HalfLine.kind, Side.keyword, Node.boundIsOpen]

theorem maximum_eq : maximum schema value = schema.outside? x .upper .marked := by
  have hkeyword : schema.value "maximum" = schema.bound .upper .marked := rfl
  have hmark : (schema.value "exclusiveMaximum").isTrue = schema.boundIsOpen .upper .marked := rfl
  unfold maximum
  rw [hkeyword, hmark]
  cases hbound : (schema.bound .upper .marked).extended? with
  | none =>
    obtain ⟨-, -, hlt, hle⟩ := Json.incomparable hbound value
    simp [Node.outside?_of_none hbound, hlt, hle]
  | some limit =>
    have hnumber := Json.isNumber_of_extended? hbound
    cases hopen : schema.boundIsOpen .upper .marked with
    | true =>
      rw [Node.outside?_of_some hbound hopen ((Json.le_iff hbound exact).trans not_lt.symm)]
      simp [hnumber, HalfLine.kind, Side.keyword]
    | false =>
      rw [Node.outside?_of_some hbound hopen ((Json.lt_iff hbound exact).trans not_le.symm)]
      simp [hnumber, HalfLine.kind, Side.keyword]

theorem exclusiveMaximum_eq :
    exclusiveMaximum schema value = schema.outside? x .upper .standing := by
  have hkeyword : schema.value "exclusiveMaximum" = schema.bound .upper .standing := rfl
  unfold exclusiveMaximum
  rw [hkeyword]
  cases hbound : (schema.bound .upper .standing).extended? with
  | none =>
    obtain ⟨-, -, -, hle⟩ := Json.incomparable hbound value
    simp [Node.outside?_of_none hbound, hle]
  | some limit =>
    rw [Node.outside?_of_some hbound rfl ((Json.le_iff hbound exact).trans not_lt.symm)]
    simp [Json.isNumber_of_extended? hbound, HalfLine.kind, Side.keyword, Node.boundIsOpen]

theorem numberFindings_eq :
    numberFindings schema value =
      multipleOf schema value ::
        Node.bounds.map fun (side, style) => schema.outside? x side style := by
  rw [numberFindings, minimum_eq exact, exclusiveMinimum_eq exact, maximum_eq exact,
    exclusiveMaximum_eq exact]
  rfl

end

end Check

/-- A violation of a bound. -/
def Violation.isOfBound (violation : Violation) : Bool :=
  violation.kind ∈ [.minimum, .exclusiveMinimum, .maximum, .exclusiveMaximum]

theorem HalfLine.isOfBound (line : HalfLine) (details : Members) (path : Path) :
    (Finding.violation { kind := line.kind, details := details } path).isOfBound := by
  obtain ⟨side, isOpen, limit⟩ := line
  cases side <;> cases isOpen <;> rfl

/-- What is said about bounds of a number: one violation for each half-line that it lies outside
of, in order. -/
structure Node.ReportsBounds (schema : Node) (x : Extended) (path : Path)
    (violations : List Violation) : Prop where
  outside : violations.filter (·.isOfBound) = bounds.flatMap fun (side, style) =>
    ((schema.outside? x side style).map (·.violation path)).toList
  inside : violations.filter (·.isOfBound) = [] ↔ x ∈ schema.interval

theorem Node.outside?_isOfBound (schema : Node) (x : Extended) (path : Path) (side : Side)
    (style : Style) :
    ∀ violation ∈ (schema.outside? x side style).map (·.violation path), violation.isOfBound := by
  intro violation hmem
  obtain ⟨found, hfound, rfl⟩ := Option.map_eq_some_iff.mp hmem
  obtain ⟨line, -, rfl⟩ := Option.map_eq_some_iff.mp hfound
  exact line.isOfBound _ path

theorem Check.numberViolations_reports {value : Json} {x : Extended}
    (exact : value.extended? = some x) (schema : Node) (path : Path) :
    schema.ReportsBounds x path (numberViolations schema value path) := by
  have hmultiple : ((multipleOf schema value).map (·.violation path)).toList.filter
      (·.isOfBound) = [] := by
    unfold multipleOf
    cases schema.member? "multipleOf" with
    | none => rfl
    | some divisor =>
      rw [Option.bind_some]
      split <;> rfl
  have houtside : (numberViolations schema value path).filter (·.isOfBound) =
      Node.bounds.flatMap fun (side, style) =>
        ((schema.outside? x side style).map (·.violation path)).toList := by
    rw [numberViolations, numberFindings_eq exact, List.flatMap_cons, List.filter_append, hmultiple,
      List.nil_append, List.flatMap_map]
    refine List.filter_eq_self.mpr fun violation hmem => ?_
    obtain ⟨⟨side, style⟩, -, hfound⟩ := List.mem_flatMap.mp hmem
    exact schema.outside?_isOfBound x path side style violation (Option.mem_toList.mp hfound)
  refine ⟨houtside, ?_⟩
  rw [houtside, Node.mem_interval_iff, List.flatMap_eq_nil_iff]
  constructor
  · intro h side style
    have hbound : (side, style) ∈ Node.bounds := by cases side <;> cases style <;> decide
    simpa using h (side, style) hbound
  · rintro h ⟨side, style⟩ -
    simp [h side style]

end JsonSchema
