import JsonSchema.Pattern.CharTest

/-! The flags of patterns: those that hold in some part of one, and how a group changes
them for what it holds. -/
namespace JsonSchema.Pattern

inductive Flag where
  | ignoreCase
  | multiline
  | dotAll
  | verbose
  | ascii
  | unicode
  | template
deriving DecidableEq

namespace Flag

def ofLetter? : Char → Option Flag
  | 'i' => some .ignoreCase
  | 'm' => some .multiline
  | 's' => some .dotAll
  | 'x' => some .verbose
  | 'a' => some .ascii
  | 'u' => some .unicode
  | 't' => some .template
  | _ => none

/-- Whether a flag decides which characters are letters, digits and blanks. -/
def isAlphabet (flag : Flag) : Bool :=
  flag = .ascii || flag = .unicode

end Flag

/-- The flags that hold in some part of a pattern. -/
abbrev Flags := List Flag

namespace Flags

/-- An alphabet that is switched on replaces the one before. -/
def change (flags added removed : Flags) : Flags :=
  let kept := if added.any Flag.isAlphabet then flags.filter (!·.isAlphabet) else flags
  (kept ++ added).filter (!removed.contains ·)

def isAscii (flags : Flags) : Bool :=
  flags.contains .ascii

def folding (flags : Flags) : Folding :=
  if !flags.contains .ignoreCase then .none
  else if flags.isAscii then .ascii else .unicode

end Flags

end JsonSchema.Pattern
