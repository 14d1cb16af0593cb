/-! Sets of code points as ascending lists of closed ranges. -/
namespace JsonSchema.Text

abbrev Ranges := List (Nat × Nat)

/-- Whether a code point lies in one of the ranges; none after the first that starts
above it can hold it. -/
def Ranges.covers : Ranges → Nat → Bool
  | [], _ => false
  | (first, last) :: rest, n => if n < first then false else n ≤ last || Ranges.covers rest n

/-- Whether some code point from `first` to `last` lies in one of the ranges. -/
def Ranges.meets (ranges : Ranges) (first last : Nat) : Bool :=
  ranges.any fun (low, high) => low ≤ last && first ≤ high

end JsonSchema.Text
