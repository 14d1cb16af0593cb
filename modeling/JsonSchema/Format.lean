import JsonSchema.Pattern

/-! The formats that a string may be asked to have. All but one are patterns; the
format `regex` holds the strings that are patterns themselves. -/
namespace JsonSchema

inductive Format where
  | pattern (meaning : Except Pattern.Flaw Pattern)
  | regex

namespace Format

/-- A number from 0 to 255 in up to three digits. -/
def octet : String := "(?:25[0-5]|2[0-4][0-9]|[01]?[0-9][0-9]?)"

def ipAddressText : String :=
  "^" ++ octet ++ "\\." ++ octet ++ "\\." ++ octet ++ "\\." ++ octet ++ "\\Z"

def ipv6Text : String := "^(?:[0-9A-Fa-f]\x7b1,4\x7d:)\x7b7\x7d[0-9A-Fa-f]\x7b1,4\x7d\\Z"

def dayText : String := "\\d\x7b4\x7d-\\d\x7b2\x7d-\\d\x7b2\x7d"

def clockText : String := "\\d\x7b2\x7d:\\d\x7b2\x7d:\\d\x7b2\x7d"

def dateTimeText : String :=
  "^" ++ dayText ++ "T" ++ clockText ++ "(?:.\\d\x7b1,3\x7d)?Z\\Z"

def dateText : String := "^" ++ dayText ++ "\\Z"

def timeText : String := "^" ++ clockText ++ "\\Z"

def channel : String := "\\s*(?:[+-]?\\d+%?)\\s*"

/-- Six or three signs after a hash, or a list of three or four channels. -/
def colorText : String :=
  "(?i)^#[a-z0-9]\x7b6\x7d\\Z|^#[a-z0-9]\x7b3\x7d\\Z|^(?:rgba?\\(" ++ channel ++ "," ++ channel
    ++ "," ++ channel ++ "(?:," ++ channel ++ ")?\\))\\Z"

/-- Letters, digits and inner hyphens, with a letter first. -/
def labelText : String := "(?:[a-zA-Z]|[a-zA-Z][a-zA-Z0-9\\-]*[a-zA-Z0-9])"

def hostNameText : String := "^(?:" ++ labelText ++ "\\.)*" ++ labelText ++ "\\Z"

def utcMillisecText : String := "^\\d+\\Z"

def urlText : String :=
  "^(?:http|ftp|https)://[\\w\\-_]+(?:\\.[\\w\\-_]+)+"
    ++ "(?:[\\w\\-\\.,@?^=%&amp;:/~\\+#]*[\\w\\-\\@?^=%&amp;/~\\+#])?\\Z"

def slugText : String := "^" ++ labelText ++ "*\\Z"

/-- Letters beyond ASCII that an address may hold. -/
def foreignLetter : String := "[\\u00A0-\\uD7FF\\uF900-\\uFDCF\\uFDF0-\\uFFEF]"

def atom : String :=
  "(?:[a-z]|\\d|[!#\\$%&'\\*\\+\\-\\/=\\?\\^_`\x7b\\|\x7d~]|" ++ foreignLetter ++ ")+"

/-- Blanks, with at most one line break before the last of them. -/
def folding : String := "(?:(?:[\\x20\\x09]*\\x0d\\x0a)?[\\x20\\x09]+)?"

def quotedSign : String :=
  "(?:[\\x01-\\x08\\x0b\\x0c\\x0e-\\x1f\\x7f]|\\x21|[\\x23-\\x5b]|[\\x5d-\\x7e]|" ++ foreignLetter
    ++ "|\\\\(?:[\\x01-\\x09\\x0b\\x0c\\x0d-\\x7f]|" ++ foreignLetter ++ "))"

def quotedPart : String :=
  "\\x22(?:" ++ folding ++ quotedSign ++ ")*" ++ folding ++ "\\x22"

def domainMiddle : String := "(?:[a-z]|\\d|-|\\.|_|~|" ++ foreignLetter ++ ")*"

/-- One or more signs, the outer ones of a narrower kind. -/
def domainLabel (outer : String) : String :=
  "(?:" ++ outer ++ "|" ++ outer ++ domainMiddle ++ outer ++ ")"

def emailText : String :=
  "(?i)^(?:" ++ atom ++ "(?:\\." ++ atom ++ ")*|" ++ quotedPart ++ ")@(?:"
    ++ domainLabel ("(?:[a-z]|\\d|" ++ foreignLetter ++ ")") ++ "\\.)+"
    ++ domainLabel ("(?:[a-z]|" ++ foreignLetter ++ ")") ++ "\\.?\\Z"

def registered : List (String × Format) :=
  [("email", .pattern (Pattern.ofText? emailText)),
   ("ip-address", .pattern (Pattern.ofText? ipAddressText)),
   ("ipv6", .pattern (Pattern.ofText? ipv6Text)),
   ("date-time", .pattern (Pattern.ofText? dateTimeText)),
   ("date", .pattern (Pattern.ofText? dateText)),
   ("time", .pattern (Pattern.ofText? timeText)),
   ("color", .pattern (Pattern.ofText? colorText)),
   ("host-name", .pattern (Pattern.ofText? hostNameText)),
   ("utc-millisec", .pattern (Pattern.ofText? utcMillisecText)),
   ("regex", .regex),
   ("url", .pattern (Pattern.ofText? urlText)),
   ("slug", .pattern (Pattern.ofText? slugText))]

def named? (name : String) : Option Format :=
  registered.lookup name

/-- Whether a string has a format. A string that is no pattern because its counts or
its flags go too far is an error even for `regex`. -/
def accepts (format : Format) (s : String) : Except Pattern.Flaw Bool :=
  match format with
  | .pattern meaning => meaning.bind (·.foundIn s)
  | .regex =>
    match Pattern.ofText? s with
    | .ok _ => .ok true
    | .error .malformed => .ok false
    | .error flaw => .error flaw

end Format

end JsonSchema
