import JsonSchema.Text.Hex

/-! Percent-encoded text. Escaped bytes are read as UTF-8 together with the ASCII
characters around them, and what is no UTF-8 is replaced. -/
namespace JsonSchema.Text

/-- A sequence of bytes that has begun: the bits of its character so far, the range of
the next byte, and how many bytes come after that one. -/
structure Pending where
  bits : Nat
  low : Nat
  high : Nat
  more : Nat

/-- What the first byte of a longer sequence begins: no overlong forms, no surrogates,
nothing past U+10FFFF. -/
def pending? (b : Nat) : Option Pending :=
  if 0xC2 ≤ b ∧ b ≤ 0xDF then some ⟨b % 32, 0x80, 0xBF, 0⟩
  else if b = 0xE0 then some ⟨b % 16, 0xA0, 0xBF, 1⟩
  else if b = 0xED then some ⟨b % 16, 0x80, 0x9F, 1⟩
  else if 0xE1 ≤ b ∧ b ≤ 0xEF then some ⟨b % 16, 0x80, 0xBF, 1⟩
  else if b = 0xF0 then some ⟨b % 8, 0x90, 0xBF, 2⟩
  else if 0xF1 ≤ b ∧ b ≤ 0xF3 then some ⟨b % 8, 0x80, 0xBF, 2⟩
  else if b = 0xF4 then some ⟨b % 8, 0x80, 0x8F, 2⟩
  else none

def replacement : Char := '\uFFFD'

/-- A byte where none is pending: the characters it completes and what it begins. -/
def first (b : Nat) : List Char × Option Pending :=
  if b < 0x80 then ([Char.ofNat b], none)
  else
    match pending? b with
    | some p => ([], some p)
    | none => ([replacement], none)

/-- One more byte. A sequence that breaks off is replaced as a whole, and the byte that
breaks it is read afresh. -/
def feed (pending : Option Pending) (b : Nat) : List Char × Option Pending :=
  match pending with
  | none => first b
  | some p =>
    if p.low ≤ b ∧ b ≤ p.high then
      let bits := p.bits * 64 + b % 64
      if p.more = 0 then ([Char.ofNat bits], none)
      else ([], some ⟨bits, 0x80, 0xBF, p.more - 1⟩)
    else (replacement :: (first b).1, (first b).2)

def decodeUtf8 : Option Pending → List Nat → List Char
  | none, [] => []
  | some _, [] => [replacement]
  | pending, b :: rest => (feed pending b).1 ++ decodeUtf8 (feed pending b).2 rest

/-- The bytes of ASCII text; a percent sign without two hexadecimal digits after it
stands for itself. -/
def unescapedBytes : List Char → List Nat
  | [] => []
  | '%' :: a :: b :: rest =>
    match Text.hexDigit? a, Text.hexDigit? b with
    | some x, some y => (x * 16 + y) :: unescapedBytes rest
    | _, _ => '%'.toNat :: unescapedBytes (a :: b :: rest)
  | c :: rest => c.toNat :: unescapedBytes rest

def isAscii (c : Char) : Bool :=
  c.toNat < 0x80

/-- The text with its escapes read; `run` holds the ASCII characters just before, the
last one first. -/
def percentDecode : List Char → List Char → List Char
  | run, [] => decodeUtf8 none (unescapedBytes run.reverse)
  | run, c :: rest =>
    if isAscii c then percentDecode (c :: run) rest
    else decodeUtf8 none (unescapedBytes run.reverse) ++ c :: percentDecode [] rest

end JsonSchema.Text
