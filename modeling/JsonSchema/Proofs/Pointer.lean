import JsonSchema.Schema.Reference

/-! A pointer is read back as the tokens of the path that it was made from, and what it
leads to is what stands at that path. -/
namespace JsonSchema

theorem Text.split_append {stop : Char} {piece rest : List Char} {parts : List (List Char)}
    (free : stop ∉ piece) (h : split stop rest = [] :: parts) :
    split stop (piece ++ rest) = piece :: parts := by
  induction piece with
  | nil => exact h
  | cons c cs ih =>
    rw [List.mem_cons, not_or] at free
    rw [List.cons_append, split, if_neg (Ne.symm free.1), ih free.2]

theorem Path.slash_not_mem_escapeToken (token : String) : '/' ∉ escapeToken token := by
  intro h
  obtain ⟨c, _, hc⟩ := List.mem_flatMap.mp h
  by_cases htilde : c = '~'
  · simp [htilde] at hc
  by_cases hslash : c = '/'
  · simp [hslash] at hc
  · simp [htilde, hslash, Ne.symm hslash] at hc

/-- Between the slashes of a pointer stand the escaped tokens, also where they are empty. -/
theorem Path.split_pointer (path : Path) :
    Text.split '/' path.pointer.toList = [] :: path.map fun step => escapeToken step.token := by
  rw [pointer, String.toList_ofList]
  induction path with
  | nil => rfl
  | cons step rest ih =>
    rw [List.flatMap_cons, List.cons_append, Text.split, if_pos rfl,
      Text.split_append (slash_not_mem_escapeToken step.token) ih, List.map_cons]

/-- A pointer is decoded to the keys of its path, and to its indices in decimal. -/
theorem Pointer.tokens?_pointer (path : Path) :
    tokens? path.pointer.toList = some (path.map Step.token) := by
  rw [tokens?, Path.split_pointer]
  dsimp only
  induction path with
  | nil => rfl
  | cons step rest ih =>
    rw [List.map_cons, List.mapM_cons, ih, unescape?_escapeToken]
    simp

namespace Json

/-- The part of a value that a token leads to (RFC 6901, section 4): the member of that name,
or the item at the index that the token is the decimal text of. -/
def tokenChild? : Json → String → Option Json
  | .obj members, token => members.lookup token
  | .arr items, token =>
    let i := Nat.ofDigitChars 10 token.toList 0
    if integerText i = token then items[i]? else none
  | _, _ => none

def followTokens? : Json → List String → Option Json
  | value, [] => some value
  | value, token :: rest => (value.tokenChild? token).bind (·.followTokens? rest)

/-- What a pointer leads to in a value. -/
def pointed? (value : Json) (pointer : String) : Option Json :=
  (Pointer.tokens? pointer.toList).bind value.followTokens?

theorem followTokens?_append (value : Json) (tokens more : List String) :
    value.followTokens? (tokens ++ more) =
      (value.followTokens? tokens).bind (·.followTokens? more) := by
  induction tokens generalizing value with
  | nil => rfl
  | cons token rest ih =>
    simp only [List.cons_append, followTokens?]
    cases value.tokenChild? token <;> simp [ih]

theorem pointed?_pointer (value : Json) (path : Path) :
    value.pointed? path.pointer = value.followTokens? (path.map Step.token) := by
  rw [pointed?, Pointer.tokens?_pointer, Option.bind_some]

/-- The text of an index is read as that index. -/
theorem tokenChild?_token {value part : Json} {step : Step} (h : value.child? step = some part) :
    value.tokenChild? step.token = some part := by
  unfold child? at h
  split at h
  · exact h
  · rename_i items i
    split at h
    · rename_i hpos
      obtain ⟨n, rfl⟩ := Int.eq_ofNat_of_zero_le hpos
      have htext : integerText n = String.ofList (Nat.toDigits 10 n) := rfl
      have hread : Nat.ofDigitChars 10 (integerText n).toList 0 = n := by
        rw [htext, String.toList_ofList, Nat.ofDigitChars_ten_toDigits]
      rw [Step.token, tokenChild?, hread, if_pos rfl]
      exact h
    · cases h
  · cases h

theorem followTokens?_at? {value part : Json} {path : Path} (h : value.at? path = some part) :
    value.followTokens? (path.map Step.token) = some part := by
  induction path generalizing value with
  | nil => exact h
  | cons step rest ih =>
    obtain ⟨child, hchild, hrest⟩ := Option.bind_eq_some_iff.mp h
    rw [List.map_cons, followTokens?, tokenChild?_token hchild]
    exact ih hrest

/-- What stands at a path is what its pointer leads to. -/
theorem pointed?_of_at? {value part : Json} {path : Path} (h : value.at? path = some part) :
    value.pointed? path.pointer = some part := by
  rw [pointed?_pointer, followTokens?_at? h]

/-- From an object, the pointer with one more key leads to the member of that name. -/
theorem pointed?_key {value : Json} {path : Path} {members : Members}
    (h : value.at? path = some (.obj members)) (name : String) :
    value.pointed? (path.key name).pointer = members.lookup name := by
  rw [pointed?_pointer, Path.key, List.map_append, followTokens?_append, followTokens?_at? h,
    Option.bind_some]
  change (members.lookup name).bind (fun part => some part) = members.lookup name
  exact Option.bind_fun_some _

end Json

end JsonSchema
