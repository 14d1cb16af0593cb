/-! How many characters a part of a pattern takes. Widths are counted up to a limit, and
what has no upper limit counts as reaching it. -/
namespace JsonSchema.Pattern

/-- Counts of repetitions stay below this one, which stands for no upper limit. -/
def countLimit : Nat := 4294967295

/-- How many characters are taken at least and at most. -/
structure Width where
  low : Nat
  high : Nat
deriving DecidableEq

namespace Width

def exactly (n : Nat) : Width := ⟨n, n⟩

def add (a b : Width) : Width := ⟨a.low + b.low, a.high + b.high⟩

def either (a b : Width) : Width := ⟨min a.low b.low, max a.high b.high⟩

def times (w : Width) (low : Nat) (high : Option Nat) : Width :=
  ⟨w.low * low, w.high * high.getD countLimit⟩

/-- A width within the limit. -/
def capped (w : Width) : Width := ⟨min w.low (countLimit - 1), min w.high countLimit⟩

def isFixed (w : Width) : Bool := w.low = w.high

theorem capped_capped (w : Width) : w.capped.capped = w.capped := by
  simp [capped]

end Width

end JsonSchema.Pattern
