import JsonSchema.Number.Digits
import JsonSchema.Text.Blank
import JsonSchema.Text.Digit

/-! Integers as people write them: blanks around, a sign, decimal digits of any script,
and single underscores between digits. -/
namespace JsonSchema.Text

namespace Integer

inductive Flaw where
  | notANumber
  | tooManyDigits (count : Nat)
deriving DecidableEq

/-- Blanks that may stand around a number. The information separators may not. -/
def isAround (c : Char) : Bool :=
  c = ' ' || ('\x09' ≤ c && c ≤ '\x0d') || (0x7F < c.toNat && isBlank c)

/-- The digits at the head of a text, with what follows them. An underscore must stand
between two digits. -/
def digits? : Bool → List Char → Option (List Nat × List Char)
  | afterDigit, [] => if afterDigit then some ([], []) else none
  | afterDigit, c :: rest =>
    match digitValue? c with
    | some d => (digits? true rest).map fun (ds, rest) => (d :: ds, rest)
    | none =>
      if !afterDigit then none
      else if c = '_' then digits? false rest
      else some ([], c :: rest)

def ofDigits (digits : List Nat) : Nat :=
  digits.foldl (fun n d => n * 10 + d) 0

/-- A number without a sign, up to the blanks at the end. -/
def unsigned (cs : List Char) : Except Flaw Nat :=
  match digits? false cs with
  | none => .error .notANumber
  | some (digits, rest) =>
    if digitLimit < digits.length then .error (.tooManyDigits digits.length)
    else if rest.all isAround then .ok (ofDigits digits)
    else .error .notANumber

end Integer

def integer (cs : List Char) : Except Integer.Flaw Int :=
  match cs.dropWhile Integer.isAround with
  | '-' :: rest => (Integer.unsigned rest).map fun n => -(n : Int)
  | '+' :: rest => (Integer.unsigned rest).map Int.ofNat
  | rest => (Integer.unsigned rest).map Int.ofNat

end JsonSchema.Text
