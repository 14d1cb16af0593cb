/-! Why a pattern cannot be used. -/
namespace JsonSchema.Pattern

inductive Flaw where
  /-- The text is no pattern. -/
  | malformed
  | repetitionTooLarge
  /-- An escape of eight digits goes beyond what a machine word of 32 bits holds. -/
  | codePointTooLarge
  | incompatibleFlags
  /-- A number has more digits than are read. -/
  | tooManyDigits (count : Nat)
  | lookBehindTooWide
  /-- A group of a match ends before it starts, which only a search shows. -/
  | crossedGroup
deriving DecidableEq

end JsonSchema.Pattern
