import JsonSchema.Text.Split

/-! Runs of characters that follow one another and whose names start alike. -/
namespace JsonSchema.Text

/-- The names of characters from `first` on: what they start with, and how each goes on.
A string holds the endings of several, with bars between them. -/
structure NameRun where
  first : Nat
  start : String
  endings : List String

/-- The place of a text in a list, after so many others. -/
def placeOf? (text : List Char) : Nat → List (List Char) → Option Nat
  | _, [] => none
  | i, other :: rest => if other = text then some i else placeOf? text (i + 1) rest

namespace NameRun

def endingList (run : NameRun) : List (List Char) :=
  run.endings.flatMap fun line => split '|' line.toList

/-- The character of a name, if the run holds it. -/
def find? (run : NameRun) (name : List Char) : Option Nat :=
  let start := run.start.toList
  if start.isPrefixOf name then placeOf? (name.drop start.length) run.first run.endingList
  else none

end NameRun

end JsonSchema.Text
