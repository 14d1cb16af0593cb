import JsonSchema.Pattern.Expr
import JsonSchema.Pattern.Memory

/-! Matching by backtracking. An expression is run at a place together with what is to
match after it, and the first way to match both wins; what a part has matched for good
(an atomic group, a look around, a possessive loop) is not tried again. What a failed try
leaves in the memory can still be seen by later parts. -/
namespace JsonSchema.Pattern

/-- There is no boundary in an empty text, and no place without one either. -/
def Anchor.holds (anchor : Anchor) (p : Place) : Bool :=
  match anchor with
  | .textStart => p.before.isEmpty
  | .lineStart => p.before.head?.all (· = '\n')
  | .textEnd => p.rest.isEmpty
  | .lastLineEnd => p.rest.isEmpty || p.rest == ['\n']
  | .lineEnd => p.rest.head?.all (· = '\n')
  | .boundary ascii negated =>
    let isWord := if ascii then Category.word.holdsAscii else Category.word.holds
    !(p.before.isEmpty && p.rest.isEmpty)
      && (p.before.head?.any isWord != p.rest.head?.any isWord) != negated

/-- How a try ended, and what is remembered of it. -/
structure Outcome where
  matched : Bool
  memory : Memory

def Memory.fail (m : Memory) : Outcome := ⟨false, m⟩

/-- Tries at a place. -/
abbrev Try := Place → Memory → Outcome

/-- What is to match next. If that is a certain character first of all, it is known. -/
structure Next where
  first : Option Nat
  run : Try

namespace Next

/-- Nothing more is to match. -/
def done : Next := ⟨none, fun p m => ⟨true, m.reach p⟩⟩

/-- What is next, seen from inside a part. -/
def outside (next : Next) : Next := ⟨none, next.run⟩

/-- Whether what is next may match here as far as its first character tells. -/
def mayStart (next : Next) (p : Place) : Bool :=
  match next.first, p.rest with
  | none, _ => true
  | some n, c :: _ => c.toNat = n
  | some _, [] => false

end Next

/-- Runs an expression, inside a loop or not, before what is next. -/
abbrev Run := Bool → Next → Try

namespace Expr

def isEmpty : Expr → Bool
  | .empty => true
  | .seq a b => a.isEmpty && b.isEmpty
  | _ => false

/-- The test that an expression begins with. -/
def firstTest? : Expr → Option CharTest
  | .one test => some test
  | .seq a b => if a.isEmpty then b.firstTest? else a.firstTest?
  | _ => none

/-- The certain character that comes first in an expression and what is next. -/
def firstPoint? (e : Expr) (next : Next) : Option Nat :=
  if e.isEmpty then next.first else e.firstTest?.bind CharTest.certain?

/-- Whether an alternative is tried at a place. One that begins with a test of the next
character as it stands is passed over if that fails. -/
def mayStart (e : Expr) (p : Place) : Bool :=
  match e.firstTest? with
  | some test => !test.isDirect || p.allows test
  | none => true

end Expr

/-- The memory after a run of characters up to a place. Looking for a set under a folding
leaves a trace. -/
def Memory.afterRun (m : Memory) (test : CharTest) (p : Place) : Memory :=
  if test.isFoldedSet then m.reach p else m

/-- Tries what is next at one place after the other. -/
def tryEach (inLoop : Bool) (next : Next) : List Place → Memory → Outcome
  | [], m => m.fail
  | p :: rest, m =>
    if next.mayStart p then
      let tried := next.run p (m.reach p)
      if tried.matched then tried else tryEach inLoop next rest (m.restore inLoop tried.memory)
    else tryEach inLoop next rest m

/-- Tries what is next here, and then after one more character at a time. -/
def tryFewest (inLoop : Bool) (next : Next) (test : CharTest) (position : Nat)
    (before : List Char) : List Char → Option Nat → Memory → Outcome
  | [], _, m =>
    let p : Place := ⟨position, before, []⟩
    let tried := next.run p (m.reach p)
    if tried.matched then tried else ((m.restore inLoop tried.memory).reach p).fail
  | c :: rest, high, m =>
    let p : Place := ⟨position, before, c :: rest⟩
    let tried := next.run p (m.reach p)
    if tried.matched then tried
    else
      let m := (m.restore inLoop tried.memory).reach p
      if test.accepts c then
        if high = some 0 then (m.afterRun test ⟨position + 1, c :: before, rest⟩).fail
        else
          tryFewest inLoop next test (position + 1) (c :: before) rest (high.map (· - 1))
            (m.afterRun test ⟨position + 1, c :: before, rest⟩)
      else m.fail

/-- A loop over single characters, of which so many have to be left. -/
def manyOf (greed : Greed) (low : Nat) (high : Option Nat) (test : CharTest) (inLoop : Bool)
    (next : Next) (p : Place) (m : Memory) : Outcome :=
  let most := match greed with
    | .lazy => some low
    | _ => high
  let passed := p.passed test most
  let last := passed.headD p
  let m := (m.reach p).afterRun test last
  if passed.length ≤ low then m.fail
  else
    match greed with
    | .greedy =>
      tryEach inLoop next (if low = 0 then passed else passed.take (passed.length - low)) m
    | .lazy =>
      tryFewest inLoop next test last.position last.before last.rest (high.map (· - low)) m
    | .possessive => next.run last m

/-- Whether a loop may go on: below its upper limit, and only if its last optional round
has moved. -/
def mayRepeat (high : Option Nat) (count : Nat) (last : Option Nat) (p : Place) : Bool :=
  high.all (count < ·) && last != some p.position

/-- As many rounds as possible first. -/
def greedyLoop (body : Run) (low : Nat) (high : Option Nat) (next : Next) :
    Nat → Nat → Option Nat → Try
  | 0, _, _, _, m => m.fail
  | fuel + 1, count, last, p, m =>
    let m := m.reach p
    let leave (m : Memory) : Outcome :=
      let tried := next.run p m
      if tried.matched then tried else (tried.memory.reach p).fail
    if count < low then
      let tried := body true ⟨none, greedyLoop body low high next fuel (count + 1) last⟩ p m
      if tried.matched then tried else (tried.memory.reach p).fail
    else if mayRepeat high count last p then
      let again := greedyLoop body low high next fuel (count + 1) (some p.position)
      let tried := body true ⟨none, again⟩ p m
      if tried.matched then tried else leave m
    else leave m

/-- As few rounds as possible first. -/
def lazyLoop (body : Run) (low : Nat) (high : Option Nat) (inLoop : Bool) (next : Next) :
    Nat → Nat → Option Nat → Try
  | 0, _, _, _, m => m.fail
  | fuel + 1, count, last, p, m =>
    let m := m.reach p
    if count < low then
      let again := lazyLoop body low high inLoop next fuel (count + 1) last
      let tried := body true ⟨none, again⟩ p m
      if tried.matched then tried else (tried.memory.reach p).fail
    else
      let tried := next.run p m
      if tried.matched then tried
      else
        let m := (m.restore inLoop tried.memory).reach p
        if mayRepeat high count last p then
          let again := lazyLoop body low high inLoop next fuel (count + 1) (some p.position)
          let tried := body true ⟨none, again⟩ p m
          if tried.matched then tried else (tried.memory.reach p).fail
        else m.fail

/-- As many rounds as possible, each settled once it has matched. A round starts where
the last one has reached; so does what is next, even when a round has failed there. -/
def possessiveLoop (body : Try) (low : Nat) (high : Option Nat) (start : Place) :
    Nat → Nat → Option Nat → Memory → Outcome
  | 0, _, _, m => m.fail
  | fuel + 1, count, last, m =>
    if count < low then
      let tried := body m.reached m
      if tried.matched then possessiveLoop body low high start fuel (count + 1) last tried.memory
      else (tried.memory.reach start).fail
    else if mayRepeat high count last m.reached then
      let tried := body m.reached m
      if tried.matched then
        possessiveLoop body low high start fuel (count + 1) (some m.reached.position)
          tried.memory
      else ⟨true, m.reach tried.memory.reached⟩
    else ⟨true, m⟩

/-- What is next is tried at the place that a settled part has reached. -/
def Outcome.andThen (settled : Outcome) (next : Next) : Outcome :=
  if settled.matched then next.run settled.memory.reached settled.memory else settled

/-- Rounds enough for every loop in a text of some size: beyond the required ones each
starts at another place than the one before. -/
def loopFuel (size low : Nat) : Nat :=
  low + (size + 2) * (size + 2)

/-- Runs an expression in a text of some size. -/
def Expr.run (size : Nat) : Expr → Run
  | .empty, _, next, p, m => next.run p m
  | .never, _, _, _, m => m.fail
  | .one test, _, next, p, m =>
    match p.after? test with
    | some p => next.run p m
    | none => m.fail
  | .seq a b, inLoop, next, p, m =>
    a.run size inLoop ⟨b.firstPoint? next, b.run size inLoop next⟩ p m
  | .alt a b, inLoop, next, p, m =>
    if a.mayStart p then
      let tried := a.run size inLoop next.outside p (m.reach p)
      if tried.matched then tried
      else b.run size inLoop next.outside p (m.restore inLoop tried.memory)
    else b.run size inLoop next.outside p m
  | .group number a, inLoop, next, p, m =>
    a.run size inLoop ⟨none, fun p m => next.run p (m.leave number p)⟩ p (m.enter number p)
  | .many greed low high test, inLoop, next, p, m =>
    if size - p.position < low then m.fail else manyOf greed low high test inLoop next p m
  | .loop .greedy low high a, _, next, p, m =>
    greedyLoop (a.run size) low high next (loopFuel size low) 0 none p m
  | .loop .lazy low high a, inLoop, next, p, m =>
    lazyLoop (a.run size) low high inLoop next (loopFuel size low) 0 none p m
  | .loop .possessive low high a, inLoop, next, p, m =>
    (possessiveLoop (a.run size inLoop .done) low high p (loopFuel size low) 0 none
      (m.reach p)).andThen next
  | .atomic a, inLoop, next, p, m =>
    let settled := a.run size inLoop .done p (m.reach p)
    if settled.matched then settled.andThen next else (settled.memory.reach p).fail
  | .look negated width a, inLoop, next, p, m =>
    if p.position < width then if negated then next.run p m else m.fail
    else
      let earlier := p.retreat width
      let found := a.run size inLoop .done earlier (m.reach earlier)
      if negated then
        if found.matched then found.memory.fail
        else next.run p (m.restore inLoop found.memory)
      else if found.matched then next.run p found.memory
      else found.memory.fail
  | .back folding number, _, next, p, m =>
    match (m.captured? number).bind fun text => p.consume? folding text with
    | some p => next.run p m
    | none => m.fail
  | .cond number met unmet, inLoop, next, p, m =>
    if (m.captured? number).isSome then
      met.run size inLoop (if unmet = .empty then next else next.outside) p m
    else unmet.run size inLoop next p m
  | .anchor place, _, next, p, m => if place.holds p then next.run p m else m.fail

end JsonSchema.Pattern
