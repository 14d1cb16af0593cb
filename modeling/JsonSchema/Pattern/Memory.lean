import JsonSchema.Pattern.CharTest

/-! What a search remembers while it tries: where groups have been entered and left, and
the place that was reached last. -/
namespace JsonSchema.Pattern

/-- A place in a text, with what stands before it, the nearest first, and the rest. -/
structure Place where
  position : Nat
  before : List Char
  rest : List Char

namespace Place

def start (text : List Char) : Place := ⟨0, [], text⟩

/-- The place so many characters earlier, or the start. -/
def retreat : Nat → Place → Place
  | 0, p => p
  | n + 1, ⟨position, c :: before, rest⟩ => retreat n ⟨position - 1, before, c :: rest⟩
  | _ + 1, p => p

/-- Whether the next character passes a test. -/
def allows (test : CharTest) (p : Place) : Bool :=
  match p.rest with
  | c :: _ => test.accepts c
  | [] => false

/-- The place after a character that passes a test. -/
@[inline] def after? (test : CharTest) (p : Place) : Option Place :=
  match p.rest with
  | c :: rest => if test.accepts c then some ⟨p.position + 1, c :: p.before, rest⟩ else none
  | [] => none

/-- The places after characters that pass a test, as many as allowed, the last one
first, down to a given one. -/
def run (test : CharTest) (position : Nat) (before : List Char) :
    List Char → Option Nat → List Place → List Place
  | [], _, found => ⟨position, before, []⟩ :: found
  | c :: rest, high, found =>
    let found := ⟨position, before, c :: rest⟩ :: found
    if high ≠ some 0 ∧ test.accepts c then
      run test (position + 1) (c :: before) rest (high.map (· - 1)) found
    else found

/-- The places that a run of characters passes, the last one first. -/
def passed (test : CharTest) (high : Option Nat) (p : Place) : List Place :=
  run test p.position p.before p.rest high []

/-- The place after a piece of text that must come next. -/
def consume? (folding : Folding) : List Char → Place → Option Place
  | [], p => some p
  | c :: cs, p =>
    match p.rest with
    | d :: rest =>
      if folding.small c.toNat = folding.small d.toNat then
        consume? folding cs ⟨p.position + 1, d :: p.before, rest⟩
      else none
    | [] => none

end Place

/-- The entry and the exit of each group, those of the last group first, and the place that
was reached last. Of a group whose entry is known the exit may not be. -/
structure Memory where
  marks : List (Option Place)
  reached : Place

namespace Memory

def start (p : Place) : Memory := ⟨[], p⟩

def reach (m : Memory) (p : Place) : Memory := { m with reached := p }

/-- Remembers a place by its number, and that nothing is known of those passed over. -/
def mark (m : Memory) (i : Nat) (p : Place) : Memory :=
  let known := m.marks.length
  if i < known then { m with marks := m.marks.set (known - 1 - i) (some p) }
  else { m with marks := some p :: (List.replicate (i - known) none ++ m.marks) }

def enter (m : Memory) (number : Nat) (p : Place) : Memory := m.mark (2 * (number - 1)) p

def leave (m : Memory) (number : Nat) (p : Place) : Memory := m.mark (2 * (number - 1) + 1) p

/-- The memory after a failed try. Inside a loop all that was known before is brought
back; elsewhere only what was not known before is forgotten. -/
def restore (m : Memory) (inLoop : Bool) (tried : Memory) : Memory :=
  if inLoop then { tried with marks := m.marks }
  else { tried with marks := tried.marks.drop (tried.marks.length - m.marks.length) }

/-- The text of a group that has been left, and not before it was entered. -/
def captured? (m : Memory) (number : Nat) : Option (List Char) :=
  match m.marks.drop (m.marks.length - 2 * number) with
  | some last :: some first :: _ =>
    if 2 * number ≤ m.marks.length ∧ first.position ≤ last.position then
      some (first.rest.take (last.position - first.position))
    else none
  | _ => none

/-- Whether some group was left before the place where it was entered last, by the marks
in the order of their numbers. -/
def hasCrossed : List (Option Place) → Bool
  | some first :: some last :: rest => last.position < first.position || hasCrossed rest
  | _ :: _ :: rest => hasCrossed rest
  | _ => false

end Memory

end JsonSchema.Pattern
