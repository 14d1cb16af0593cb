import JsonSchema.Number.Double

/-! The decimal text of a double: the fewest digits that read back as the same number,
and of those the nearest. Reading back is tested with the reader itself. -/
namespace JsonSchema

/-- The positive number `digits * 10 ^ exponent`. -/
structure Decimal where
  digits : Nat
  exponent : Int
deriving DecidableEq

namespace Decimal

def toRat (d : Decimal) : Rat :=
  if d.exponent < 0 then (d.digits : Rat) / ((Nat.pow 10 d.exponent.natAbs : Nat) : Rat)
  else ((d.digits * Nat.pow 10 d.exponent.natAbs : Nat) : Rat)

def toDouble (d : Decimal) : Double :=
  .ofDecimal false d.digits d.exponent

def readsBack (rank : Nat) (d : Decimal) : Bool :=
  d.toDouble = .ofRank false rank

/-- Every positive double is at least `10 ^ 16` when counted in these units. -/
def places : Nat := 340

/-- How many digits stand before the point when a magnitude is counted in units of
`10 ^ -places`. -/
def width (rank : Nat) : Nat :=
  (Nat.toDigits 10 (Double.numerator rank * Nat.pow 10 places / Double.denominator)).length

/-- The neighbour of a magnitude among the decimals of `count` digits that reads back
as it: the nearer one if both do, the even one if both are equally near. -/
def neighbour? (rank count : Nat) : Option Decimal :=
  let shift := width rank - count
  let exponent : Int := (shift : Int) - places
  let unit := Double.denominator * Nat.pow 10 shift
  let scaled := Double.numerator rank * Nat.pow 10 places
  let below : Decimal := ⟨scaled / unit, exponent⟩
  let above : Decimal := ⟨scaled / unit + 1, exponent⟩
  let nearest : Decimal := ⟨Double.divNearest scaled unit, exponent⟩
  if readsBack rank nearest then some nearest
  else if readsBack rank below then some below
  else if readsBack rank above then some above
  else none

/-- The exact value, with all its digits. -/
def exact (rank : Nat) : Decimal :=
  ⟨Double.numerator rank * Nat.pow 5 1074, -1074⟩

/-- Seventeen digits always suffice. -/
def shortest (rank : Nat) : Decimal :=
  ((List.range 17).findSome? fun n => neighbour? rank (n + 1)).getD (exact rank)

/-- Scientific form has a signed exponent of two digits or more. -/
def scientific (digits : List Char) (exponent : Int) : List Char :=
  let fraction := digits.drop 1
  let tens := Nat.toDigits 10 exponent.natAbs
  digits.take 1 ++ (if fraction.isEmpty then [] else '.' :: fraction)
    ++ ['e', if exponent < 0 then '-' else '+'] ++ List.replicate (2 - tens.length) '0' ++ tens

/-- The point goes after `before` digits, with zeros where there are none, and is
always followed by a digit. -/
def positional (digits : List Char) (before : Int) : List Char :=
  if before ≤ 0 then
    ['0', '.'] ++ List.replicate before.natAbs '0' ++ digits
  else
    let whole := digits.take before.natAbs
    let fraction := digits.drop before.natAbs
    whole ++ List.replicate (before.natAbs - whole.length) '0'
      ++ '.' :: (if fraction.isEmpty then ['0'] else fraction)

/-- The neighbour above can be a power of ten, whose zeros are not written. -/
def withoutTrailingZeros (digits : List Char) : List Char :=
  (digits.reverse.dropWhile (· = '0')).reverse

/-- Numbers from `10 ^ -4` up to but not including `10 ^ 16` are written positionally. -/
def chars (d : Decimal) : List Char :=
  let all := Nat.toDigits 10 d.digits
  let digits := withoutTrailingZeros all
  let before : Int := all.length + d.exponent
  if -4 < before ∧ before ≤ 16 then positional digits before
  else scientific digits (before - 1)

end Decimal

namespace Double

/-- The exact value of the decimal text, for the numbers that have one. -/
def decimal? : Double → Option Rat
  | .finite negative rank =>
    let q := if rank.val = 0 then 0 else (Decimal.shortest rank).toRat
    some (if negative then -q else q)
  | _ => none

/-- How the numbers without digits are spelled. -/
structure Spelling where
  nan : String
  infinity : String

def text (spelling : Spelling) : Double → String
  | .nan => spelling.nan
  | .infinity negative => (if negative then "-" else "") ++ spelling.infinity
  | .finite negative rank =>
    let chars := if rank.val = 0 then ['0', '.', '0'] else (Decimal.shortest rank).chars
    String.ofList (if negative then '-' :: chars else chars)

end Double

end JsonSchema
