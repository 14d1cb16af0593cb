/-! Binary floating-point numbers of 64 bits. A magnitude is its rank: the finite
magnitudes in increasing order are numbered from zero, so comparing two of them is
comparing ranks, and every rank below `Double.ranks` is a number. -/
namespace JsonSchema

/-- How many magnitudes a binade holds. -/
def Double.binade : Nat := Nat.pow 2 52

/-- How many finite magnitudes there are. -/
def Double.ranks : Nat := 2047 * binade

inductive Double where
  | nan
  | infinity (negative : Bool)
  | finite (negative : Bool) (rank : Fin Double.ranks)
deriving DecidableEq

namespace Double

/-- The first binade has no implicit leading bit. -/
def significand (rank : Nat) : Nat :=
  if rank / binade = 0 then rank else binade + rank % binade

/-- The power of two that scales the significand, counted up from -1074. -/
def scale (rank : Nat) : Nat :=
  rank / binade - 1

/-- The magnitude of a rank as a fraction over `2 ^ 1074`. -/
def numerator (rank : Nat) : Nat :=
  significand rank * Nat.pow 2 (scale rank)

def denominator : Nat := Nat.pow 2 1074

def magnitude (rank : Nat) : Rat :=
  (numerator rank : Rat) / (denominator : Rat)

/-- The exact value, for the numbers that have one. -/
def toRat? : Double → Option Rat
  | .finite negative rank => some (if negative then -magnitude rank else magnitude rank)
  | _ => none

/-- A double without a fractional part, as an integer. -/
def toInt? : Double → Option Int
  | .finite negative rank =>
    if numerator rank % denominator = 0 then
      let n := (numerator rank / denominator : Nat)
      some (if negative then -(n : Int) else n)
    else none
  | _ => none

/-- Rounds a quotient to the nearest integer, a half to the even one. -/
def divNearest (num den : Nat) : Nat :=
  let q := num / den
  let r := num % den
  if 2 * r < den then q
  else if den < 2 * r then q + 1
  else if q % 2 = 0 then q else q + 1

/-- The scale at which `num / den` has a significand of 53 bits, or the least scale
when the quotient is too small for that. -/
def scaleOfRatio (num den : Nat) : Nat :=
  let shifted := num * denominator
  let guess := shifted.log2 - den.log2 - 52
  if guess ≠ 0 ∧ shifted < den * Nat.pow 2 (guess + 52) then guess - 1 else guess

/-- The rank nearest to the quotient of two positive integers; it may lie past the
last finite one. A significand that rounds up to `2 ^ 53` is the first rank of the
next binade. -/
def rankOfRatio (num den : Nat) : Nat :=
  let s := scaleOfRatio num den
  s * binade + divNearest (num * denominator) (den * Nat.pow 2 s)

def ofRank (negative : Bool) (rank : Nat) : Double :=
  if h : rank < ranks then .finite negative ⟨rank, h⟩ else .infinity negative

/-- The double nearest to a quotient. -/
def ofRatio (negative : Bool) (num den : Nat) : Double :=
  ofRank negative (rankOfRatio num den)

/-- The double nearest to `digits * 10 ^ exponent`. Quotients far outside the range
are settled by their size, since their powers of ten are too large to write down. -/
def ofDecimal (negative : Bool) (digits : Nat) (exponent : Int) : Double :=
  let width : Int := (Nat.toDigits 10 digits).length
  if digits = 0 ∨ width + exponent < -330 then ofRank negative 0
  else if 320 < width + exponent then .infinity negative
  else if exponent < 0 then ofRatio negative digits (Nat.pow 10 exponent.natAbs)
  else ofRatio negative (digits * Nat.pow 10 exponent.natAbs) 1

end Double

end JsonSchema
