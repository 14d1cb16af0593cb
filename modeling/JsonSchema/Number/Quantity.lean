import JsonSchema.Number.Decimal

/-! Exact comparison of numbers. A NaN is neither below nor above anything, so a
quantity exists for every other number and the two orders fail without one. -/
namespace JsonSchema

inductive Quantity where
  | minusInfinity
  | exact (q : Rat)
  | plusInfinity

namespace Quantity

def ofNat (n : Nat) : Quantity := .exact (n : Rat)

def lt : Quantity → Quantity → Bool
  | .minusInfinity, .minusInfinity => false
  | .minusInfinity, _ => true
  | .exact a, .exact b => a < b
  | .exact _, .plusInfinity => true
  | _, _ => false

def le : Quantity → Quantity → Bool
  | .minusInfinity, _ => true
  | .exact a, .exact b => a ≤ b
  | _, .plusInfinity => true
  | _, _ => false

end Quantity

def Double.quantity? : Double → Option Quantity
  | .nan => none
  | .infinity true => some .minusInfinity
  | .infinity false => some .plusInfinity
  | x => x.toRat?.map .exact

end JsonSchema
