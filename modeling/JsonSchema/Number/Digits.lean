/-! Integers in decimal. Only so many digits are ever read. -/
namespace JsonSchema

/-- The digits of an integer, after a minus sign if it is negative. -/
def integerChars (n : Int) : List Char :=
  if n < 0 then '-' :: Nat.toDigits 10 n.natAbs else Nat.toDigits 10 n.natAbs

def integerText (n : Int) : String :=
  String.ofList (integerChars n)

/-- The most digits of a number that is read, leading zeros included. -/
def digitLimit : Nat := 4300

/-- Why a number with so many digits is not read. -/
def digitLimitMessage (count : Nat) : String :=
  "Exceeds the limit (" ++ integerText digitLimit ++ " digits) for integer string conversion: "
    ++ "value has " ++ integerText count
    ++ " digits; use sys.set_int_max_str_digits() to increase the limit"

end JsonSchema
