/-! The signs that a pattern is made of: characters, and backslashes with the character
that follows them. -/
namespace JsonSchema.Pattern

inductive Token where
  | plain (c : Char)
  | escaped (c : Char)
  | broken
deriving DecidableEq

/-- A backslash at the very end escapes nothing. -/
def tokens : List Char → List Token
  | [] => []
  | ['\\'] => [.broken]
  | '\\' :: c :: rest => .escaped c :: tokens rest
  | c :: rest => .plain c :: tokens rest

def Token.chars : Token → List Char
  | .plain c => [c]
  | .escaped c => ['\\', c]
  | .broken => ['\\']

end JsonSchema.Pattern
