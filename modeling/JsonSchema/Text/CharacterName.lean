import JsonSchema.Text.CharacterName.Additional
import JsonSchema.Text.CharacterName.Ancient
import JsonSchema.Text.CharacterName.Brahmic
import JsonSchema.Text.CharacterName.Eastern
import JsonSchema.Text.CharacterName.Further
import JsonSchema.Text.CharacterName.Ideographic
import JsonSchema.Text.CharacterName.Modern
import JsonSchema.Text.CharacterName.Monumental
import JsonSchema.Text.CharacterName.Notation
import JsonSchema.Text.CharacterName.Pictures
import JsonSchema.Text.CharacterName.Presentation
import JsonSchema.Text.CharacterName.Signs
import JsonSchema.Text.CharacterName.Southern
import JsonSchema.Text.CharacterName.Symbols
import JsonSchema.Text.CharacterName.Western
import JsonSchema.Text.Hex
import JsonSchema.Text.Ranges

/-! Names of characters. Most stand in tables; those of ideographs and of a few more are
their code points in hexadecimal, and those of Korean syllables are spelled out. -/
namespace JsonSchema.Text

/-- What characters are called besides their names. -/
def otherNames : List (String × Nat) := [
  ("NULL", 0x0), ("NUL", 0x0), ("SOH", 0x1), ("START OF HEADING", 0x1), ("STX", 0x2),
  ("START OF TEXT", 0x2), ("ETX", 0x3), ("END OF TEXT", 0x3), ("EOT", 0x4),
  ("END OF TRANSMISSION", 0x4), ("ENQUIRY", 0x5), ("ENQ", 0x5), ("ACK", 0x6), ("ACKNOWLEDGE", 0x6),
  ("BEL", 0x7), ("ALERT", 0x7), ("BS", 0x8), ("BACKSPACE", 0x8), ("CHARACTER TABULATION", 0x9),
  ("HORIZONTAL TABULATION", 0x9), ("HT", 0x9), ("TAB", 0x9), ("NEW LINE", 0xA), ("LF", 0xA),
  ("NL", 0xA), ("END OF LINE", 0xA), ("LINE FEED", 0xA), ("EOL", 0xA),
  ("VERTICAL TABULATION", 0xB), ("VT", 0xB), ("LINE TABULATION", 0xB), ("FORM FEED", 0xC),
  ("FF", 0xC), ("CARRIAGE RETURN", 0xD), ("CR", 0xD), ("SO", 0xE), ("LOCKING-SHIFT ONE", 0xE),
  ("SHIFT OUT", 0xE), ("SHIFT IN", 0xF), ("SI", 0xF), ("LOCKING-SHIFT ZERO", 0xF),
  ("DATA LINK ESCAPE", 0x10), ("DLE", 0x10), ("DEVICE CONTROL ONE", 0x11), ("DC1", 0x11),
  ("DEVICE CONTROL TWO", 0x12), ("DC2", 0x12), ("DC3", 0x13), ("DEVICE CONTROL THREE", 0x13),
  ("DC4", 0x14), ("DEVICE CONTROL FOUR", 0x14), ("NAK", 0x15), ("NEGATIVE ACKNOWLEDGE", 0x15),
  ("SYN", 0x16), ("SYNCHRONOUS IDLE", 0x16), ("ETB", 0x17), ("END OF TRANSMISSION BLOCK", 0x17),
  ("CAN", 0x18), ("CANCEL", 0x18), ("END OF MEDIUM", 0x19), ("EOM", 0x19), ("SUB", 0x1A),
  ("SUBSTITUTE", 0x1A), ("ESC", 0x1B), ("ESCAPE", 0x1B), ("INFORMATION SEPARATOR FOUR", 0x1C),
  ("FS", 0x1C), ("FILE SEPARATOR", 0x1C), ("GROUP SEPARATOR", 0x1D), ("GS", 0x1D),
  ("INFORMATION SEPARATOR THREE", 0x1D), ("RS", 0x1E), ("INFORMATION SEPARATOR TWO", 0x1E),
  ("RECORD SEPARATOR", 0x1E), ("INFORMATION SEPARATOR ONE", 0x1F), ("UNIT SEPARATOR", 0x1F),
  ("US", 0x1F), ("SP", 0x20), ("DEL", 0x7F), ("DELETE", 0x7F), ("PAD", 0x80),
  ("PADDING CHARACTER", 0x80), ("HOP", 0x81), ("HIGH OCTET PRESET", 0x81), ("BPH", 0x82),
  ("BREAK PERMITTED HERE", 0x82), ("NBH", 0x83), ("NO BREAK HERE", 0x83), ("INDEX", 0x84),
  ("IND", 0x84), ("NEL", 0x85), ("NEXT LINE", 0x85), ("SSA", 0x86),
  ("START OF SELECTED AREA", 0x86), ("ESA", 0x87), ("END OF SELECTED AREA", 0x87), ("HTS", 0x88),
  ("HORIZONTAL TABULATION SET", 0x88), ("CHARACTER TABULATION SET", 0x88),
  ("HORIZONTAL TABULATION WITH JUSTIFICATION", 0x89),
  ("CHARACTER TABULATION WITH JUSTIFICATION", 0x89), ("HTJ", 0x89), ("VTS", 0x8A),
  ("LINE TABULATION SET", 0x8A), ("VERTICAL TABULATION SET", 0x8A), ("PARTIAL LINE DOWN", 0x8B),
  ("PARTIAL LINE FORWARD", 0x8B), ("PLD", 0x8B), ("PARTIAL LINE BACKWARD", 0x8C),
  ("PARTIAL LINE UP", 0x8C), ("PLU", 0x8C), ("REVERSE INDEX", 0x8D), ("RI", 0x8D),
  ("REVERSE LINE FEED", 0x8D), ("SS2", 0x8E), ("SINGLE-SHIFT-2", 0x8E), ("SINGLE SHIFT TWO", 0x8E),
  ("SINGLE SHIFT THREE", 0x8F), ("SS3", 0x8F), ("SINGLE-SHIFT-3", 0x8F), ("DCS", 0x90),
  ("DEVICE CONTROL STRING", 0x90), ("PRIVATE USE ONE", 0x91), ("PU1", 0x91),
  ("PRIVATE USE-1", 0x91), ("PU2", 0x92), ("PRIVATE USE-2", 0x92), ("PRIVATE USE TWO", 0x92),
  ("STS", 0x93), ("SET TRANSMIT STATE", 0x93), ("CANCEL CHARACTER", 0x94), ("CCH", 0x94),
  ("MW", 0x95), ("MESSAGE WAITING", 0x95), ("START OF GUARDED AREA", 0x96), ("SPA", 0x96),
  ("START OF PROTECTED AREA", 0x96), ("EPA", 0x97), ("END OF PROTECTED AREA", 0x97),
  ("END OF GUARDED AREA", 0x97), ("START OF STRING", 0x98), ("SOS", 0x98),
  ("SINGLE GRAPHIC CHARACTER INTRODUCER", 0x99), ("SGC", 0x99),
  ("SINGLE CHARACTER INTRODUCER", 0x9A), ("SCI", 0x9A), ("CONTROL SEQUENCE INTRODUCER", 0x9B),
  ("CSI", 0x9B), ("STRING TERMINATOR", 0x9C), ("ST", 0x9C), ("OSC", 0x9D),
  ("OPERATING SYSTEM COMMAND", 0x9D), ("PM", 0x9E), ("PRIVACY MESSAGE", 0x9E),
  ("APPLICATION PROGRAM COMMAND", 0x9F), ("APC", 0x9F), ("NBSP", 0xA0), ("SHY", 0xAD),
  ("LATIN CAPITAL LETTER GHA", 0x1A2), ("LATIN SMALL LETTER GHA", 0x1A3), ("CGJ", 0x34F),
  ("ALM", 0x61C), ("SYRIAC SUBLINEAR COLON SKEWED LEFT", 0x709), ("KANNADA LETTER LLLA", 0xCDE),
  ("LAO LETTER FO FON", 0xE9D), ("LAO LETTER FO FAY", 0xE9F), ("LAO LETTER RO", 0xEA3),
  ("LAO LETTER LO", 0xEA5), ("TIBETAN MARK BKA- SHOG GI MGO RGYAN", 0xFD0),
  ("HANGUL JONGSEONG YESIEUNG-KIYEOK", 0x11EC), ("HANGUL JONGSEONG YESIEUNG-SSANGKIYEOK", 0x11ED),
  ("HANGUL JONGSEONG SSANGYESIEUNG", 0x11EE), ("HANGUL JONGSEONG YESIEUNG-KHIEUKH", 0x11EF),
  ("FVS1", 0x180B), ("FVS2", 0x180C), ("FVS3", 0x180D), ("MVS", 0x180E), ("FVS4", 0x180F),
  ("ZWSP", 0x200B), ("ZWNJ", 0x200C), ("ZWJ", 0x200D), ("LRM", 0x200E), ("RLM", 0x200F),
  ("LRE", 0x202A), ("RLE", 0x202B), ("PDF", 0x202C), ("LRO", 0x202D), ("RLO", 0x202E),
  ("NNBSP", 0x202F), ("MMSP", 0x205F), ("WJ", 0x2060), ("LRI", 0x2066), ("RLI", 0x2067),
  ("FSI", 0x2068), ("PDI", 0x2069), ("WEIERSTRASS ELLIPTIC FUNCTION", 0x2118),
  ("MICR ON US SYMBOL", 0x2448), ("MICR DASH SYMBOL", 0x2449),
  ("LEFTWARDS TRIANGLE-HEADED ARROW WITH DOUBLE VERTICAL STROKE", 0x2B7A),
  ("RIGHTWARDS TRIANGLE-HEADED ARROW WITH DOUBLE VERTICAL STROKE", 0x2B7C),
  ("YI SYLLABLE ITERATION MARK", 0xA015), ("MYANMAR LETTER KHAMTI LLA", 0xAA6E),
  ("PRESENTATION FORM FOR VERTICAL RIGHT WHITE LENTICULAR BRACKET", 0xFE18),
  ("BYTE ORDER MARK", 0xFEFF), ("ZWNBSP", 0xFEFF), ("BOM", 0xFEFF),
  ("CUNEIFORM SIGN NU11 TENU", 0x122D4), ("CUNEIFORM SIGN NU11 OVER NU11 BUR OVER BUR", 0x122D5),
  ("MEDEFAIDRIN CAPITAL LETTER H", 0x16E56), ("MEDEFAIDRIN CAPITAL LETTER NG", 0x16E57),
  ("MEDEFAIDRIN SMALL LETTER H", 0x16E76), ("MEDEFAIDRIN SMALL LETTER NG", 0x16E77),
  ("HENTAIGANA LETTER E-1", 0x1B001),
  ("BYZANTINE MUSICAL SYMBOL FTHORA SKLIRON CHROMA VASIS", 0x1D0C5)]

/-- The selectors that are also called by a number. -/
def selector? (name : List Char) : Option Nat :=
  match name with
  | 'V' :: 'S' :: digits =>
    let place (n : Nat) : Nat := if n ≤ 16 then 0xFE00 + (n - 1) else 0xE0100 + (n - 17)
    ((List.range' 1 256).find? fun n => Nat.toDigits 10 n = digits).map place
  | _ => none

def tables : List (List NameRun) := [
  westernNames, southernNames, easternNames, additionalNames, signsNames, symbolsNames,
  ideographicNames, modernNames, presentationNames, ancientNames, brahmicNames, monumentalNames,
  furtherNames, notationNames, picturesNames]

/-- Characters whose names are a start and their code point. -/
def numberedRanges : List (String × Ranges) := [
  ("CJK COMPATIBILITY IDEOGRAPH-", [(0xF900, 0xFA6D), (0xFA70, 0xFAD9), (0x2F800, 0x2FA1D)]),
  ("KHITAN SMALL SCRIPT CHARACTER-", [(0x18B00, 0x18CD5)]),
  ("NUSHU CHARACTER-", [(0x1B170, 0x1B2FB)])]

def unifiedRanges : Ranges := [
  (0x3400, 0x4DBF), (0x4E00, 0x9FFF), (0x20000, 0x2A6DF), (0x2A700, 0x2B738), (0x2B740, 0x2B81D),
  (0x2B820, 0x2CEA1), (0x2CEB0, 0x2EBE0), (0x30000, 0x3134A)]

/-- What is left of a text after what it has to start with. -/
def dropStart? (start : String) (cs : List Char) : Option (List Char) :=
  let start := start.toList
  if start.isPrefixOf cs then some (cs.drop start.length) else none

/-- The code point of a name that ends in it. -/
def numbered? (name : List Char) : Option Nat :=
  numberedRanges.findSome? fun (start, ranges) => do
    let digits ← dropStart? start name
    let n ← hexValue? digits
    if ranges.covers n ∧ digits.head? ≠ some '0' then some n else none

/-- A unified ideograph, by four or five digits with capital letters. -/
def unified? (digits : List Char) : Option Nat :=
  if (digits.length = 4 ∨ digits.length = 5) ∧ digits.all (!·.isLower) then
    (hexValue? digits).filter unifiedRanges.covers
  else none

def initials : List String :=
  ["G", "GG", "N", "D", "DD", "R", "M", "B", "BB", "S", "SS", "", "J", "JJ", "C", "K", "T", "P",
   "H"]

def vowels : List String :=
  ["A", "AE", "YA", "YAE", "EO", "E", "YEO", "YE", "O", "WA", "WAE", "OE", "YO", "U", "WEO", "WE",
   "WI", "YU", "EU", "YI", "I"]

def finals : List String :=
  ["", "G", "GG", "GS", "N", "NJ", "NH", "D", "L", "LG", "LM", "LB", "LS", "LT", "LP", "LH", "M",
   "B", "BS", "S", "SS", "NG", "J", "C", "K", "T", "P", "H"]

/-- The place in a list of the longest sound that a text starts with, and what follows
it. -/
def sound? (sounds : List String) (cs : List Char) : Option (Nat × List Char) :=
  sounds.zipIdx.foldl (fun found (sound, i) =>
    match dropStart? sound cs, found with
    | some rest, none => some (i, rest)
    | some rest, some (j, other) =>
      if rest.length < other.length then some (i, rest) else some (j, other)
    | none, found => found) none

/-- A Korean syllable, sound by sound. -/
def syllable? (spelled : List Char) : Option Nat := do
  let (initial, rest) ← sound? initials spelled
  let (vowel, rest) ← sound? vowels rest
  let (final, rest) ← sound? finals rest
  if rest.isEmpty then
    some (0xAC00 + (initial * vowels.length + vowel) * finals.length + final)
  else none

/-- The character of a name. The case of letters matters only for syllables and unified
ideographs. -/
def characterNamed? (name : String) : Option Nat :=
  let cs := name.toList
  match dropStart? "HANGUL SYLLABLE " cs, dropStart? "CJK UNIFIED IDEOGRAPH-" cs with
  | some spelled, _ => syllable? spelled
  | none, some digits => unified? digits
  | none, none =>
    let cs := cs.map Char.toUpper
    (otherNames.lookup (String.ofList cs)).orElse fun _ =>
      (selector? cs).orElse fun _ =>
        (numbered? cs).orElse fun _ => tables.findSome? fun runs => runs.findSome? (·.find? cs)

end JsonSchema.Text
