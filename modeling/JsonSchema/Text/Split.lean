/-! Parts of texts: those between the places where a character stands, and any piece that
stands in a text without a gap. -/
namespace JsonSchema.Text

/-- The parts between the places where a character stands. There is always one. -/
def split (stop : Char) : List Char → List (List Char)
  | [] => [[]]
  | c :: rest =>
    if c = stop then [] :: split stop rest
    else
      match split stop rest with
      | [] => [[c]]
      | part :: parts => (c :: part) :: parts

theorem split_ne_nil (stop : Char) (cs : List Char) : split stop cs ≠ [] := by
  fun_cases split <;> simp_all

/-- Whether a piece stands somewhere in a text. -/
def isPiece (piece : List Char) : List Char → Bool
  | [] => piece.isEmpty
  | c :: rest => piece.isPrefixOf (c :: rest) || isPiece piece rest

theorem isPiece_iff (piece cs : List Char) : isPiece piece cs = true ↔ piece <:+: cs := by
  induction cs with
  | nil => simp [isPiece]
  | cons c rest ih => simp [isPiece, ih, List.infix_cons_iff]

end JsonSchema.Text
