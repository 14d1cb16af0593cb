import JsonSchema.Violation.Basic

/-! Templates that are written from literal texts and names. They say the texts and what the names
are bound to, whatever braces these hold, or else themselves. -/
namespace JsonSchema.Template

inductive Segment where
  | literal (text : String)
  | field (name : String)

/-- A character of a literal text, as a template has it. -/
def doubled (c : Char) : List Char :=
  if c = '\x7b' ∨ c = '\x7d' then [c, c] else [c]

namespace Segment

def written : Segment → List Char
  | literal text => text.toList.flatMap doubled
  | field name => '\x7b' :: name.toList ++ ['\x7d']

/-- The text of a segment in a message. -/
def text (values : String → Json) : Segment → List Char
  | literal text => text.toList
  | field name => (values name).display.toList

def pieces : Segment → List Piece
  | literal text => text.toList.map .char
  | field name => [.field name.toList]

end Segment

def written (segments : List Segment) : String :=
  String.ofList (segments.flatMap Segment.written)

/-- The signs that a field has a use for, in it or at its ends. -/
def reserved : List Char :=
  ['\x7b', '\x7d', '!', ':', '.', '[']

/-- Names of details. A name of digits only is a position. -/
def IsName (name : String) : Prop :=
  (∀ c ∈ name.toList, c ∉ reserved) ∧ ∃ c ∈ name.toList, Text.digitValue? c = none

instance (name : String) : Decidable (IsName name) :=
  decidable_of_iff
    (name.toList.all (!reserved.contains ·) ∧ name.toList.any (Text.digitValue? · = none))
    (by simp [IsName])

/-- The digits at the start of a name. -/
def leadingDigits : List Char → List Nat
  | [] => []
  | c :: rest =>
    match Text.digitValue? c with
    | none => []
    | some digit => digit :: leadingDigits rest

def countedOn (soFar : Nat) (digits : List Nat) : Nat :=
  digits.foldl (fun n digit => n * 10 + digit) soFar

/-- The number that a name starts with, zero without one. -/
def leadingNumber (name : String) : Nat :=
  countedOn 0 (leadingDigits name.toList)

/-- Names that start with no number or with one that a position can be. -/
def IsShort (name : String) : Prop :=
  leadingNumber name < positionLimit

instance (name : String) : Decidable (IsShort name) :=
  inferInstanceAs (Decidable (_ < _))

theorem le_countedOn (soFar : Nat) (digits : List Nat) : soFar ≤ countedOn soFar digits := by
  induction digits generalizing soFar with
  | nil => exact Nat.le_refl soFar
  | cons digit digits ih =>
    calc soFar
      _ ≤ soFar * 10 + digit := by omega
      _ ≤ countedOn (soFar * 10 + digit) digits := ih _

/-- Counting stops at the first number that is too large, but it never gets smaller after that. -/
theorem areDigits_eq {soFar : Nat} (small : soFar < positionLimit) (cs : List Char) :
    areDigits soFar cs =
      if countedOn soFar (leadingDigits cs) < positionLimit then
        .ok (cs.all fun c => (Text.digitValue? c).isSome)
      else .error .numberTooLarge := by
  induction cs generalizing soFar with
  | nil => exact (if_pos small).symm
  | cons c cs ih =>
    rw [areDigits, leadingDigits, List.all_cons]
    cases hvalue : Text.digitValue? c with
    | none => exact (if_pos small).symm
    | some digit =>
      have hcounted : countedOn soFar (digit :: leadingDigits cs) =
          countedOn (soFar * 10 + digit) (leadingDigits cs) := rfl
      rw [hcounted]
      by_cases hsmall : soFar * 10 + digit < positionLimit
      · simpa only [if_pos hsmall, Option.isSome_some, Bool.true_and] using ih hsmall
      · have hle := le_countedOn (soFar * 10 + digit) (leadingDigits cs)
        simp only [if_neg hsmall, if_neg (show ¬ countedOn (soFar * 10 + digit) (leadingDigits cs) <
          positionLimit by omega)]

theorem detail?_eq {name : String} (named : IsName name) (details : Members) :
    detail? details name.toList =
      if IsShort name then .ok (details.lookup name)
      else .error .numberTooLarge := by
  have hmixed : (name.toList.all fun c => (Text.digitValue? c).isSome) = false := by
    obtain ⟨c, hc, hnone⟩ := named.2
    exact List.all_eq_false.mpr ⟨c, hc, by simp [hnone]⟩
  rw [detail?, areDigits_eq (by decide), hmixed]
  change (if IsShort name then _ else _ : Except Flaw Bool).map _ = _
  split
  · simp [Except.map]
  · rfl

section Pieces

theorem pieces_doubled (c : Char) (rest : List Char) :
    pieces none (doubled c ++ rest) = .char c :: pieces none rest := by
  by_cases hopening : c = '\x7b'
  · subst hopening
    simp [doubled, pieces]
  · by_cases hclosing : c = '\x7d'
    · subst hclosing
      simp [doubled, pieces]
    · simp [doubled, hopening, hclosing, pieces]

theorem pieces_literal (text rest : List Char) :
    pieces none (text.flatMap doubled ++ rest) = text.map .char ++ pieces none rest := by
  induction text with
  | nil => rfl
  | cons c text ih =>
    rw [List.flatMap_cons, List.append_assoc, pieces_doubled, ih, List.map_cons, List.cons_append]

/-- The characters of a name are collected in reverse until its field is closed. -/
theorem pieces_inside {name : List Char} (hname : ∀ c ∈ name, c ∉ reserved)
    (before rest : List Char) :
    pieces (some before) (name ++ '\x7d' :: rest) =
      .field (before.reverse ++ name) :: pieces none rest := by
  induction name generalizing before with
  | nil => simp [pieces]
  | cons c name ih =>
    obtain ⟨hc, hrest⟩ := List.forall_mem_cons.mp hname
    have hopening : c ≠ '\x7b' := by rintro rfl; exact hc (by decide)
    have hclosing : c ≠ '\x7d' := by rintro rfl; exact hc (by decide)
    have hstep : pieces (some before) (c :: (name ++ '\x7d' :: rest)) =
        pieces (some (c :: before)) (name ++ '\x7d' :: rest) := by
      simp [pieces]
    rw [List.cons_append, hstep, ih hrest, List.reverse_cons, List.append_assoc,
      List.singleton_append]

/-- An opening brace in front of a name is not the first of two, since the name does not start
with a brace. -/
theorem pieces_field {name : String} (named : IsName name) (rest : List Char) :
    pieces none ('\x7b' :: name.toList ++ '\x7d' :: rest) =
      .field name.toList :: pieces none rest := by
  obtain ⟨c, cs, hcs⟩ : ∃ c cs, name.toList = c :: cs :=
    List.exists_cons_of_ne_nil (List.ne_nil_of_mem named.2.choose_spec.1)
  have hc : c ≠ '\x7b' := by
    rintro rfl
    exact named.1 '\x7b' (by simp [hcs]) (by decide)
  have hopen : pieces none ('\x7b' :: name.toList ++ '\x7d' :: rest) =
      pieces (some []) (name.toList ++ '\x7d' :: rest) := by
    simp [hcs, pieces, hc]
  rw [hopen, pieces_inside named.1, List.reverse_nil, List.nil_append]

variable {segments : List Segment} (named : ∀ name, .field name ∈ segments → IsName name)
include named

theorem pieces_written (rest : List Char) :
    pieces none (segments.flatMap Segment.written ++ rest) =
      segments.flatMap Segment.pieces ++ pieces none rest := by
  induction segments with
  | nil => rfl
  | cons segment segments ih =>
    have hrest := ih fun name hname => named name (List.mem_cons_of_mem _ hname)
    rw [List.flatMap_cons, List.flatMap_cons, List.append_assoc, List.append_assoc]
    cases segment with
    | literal text => rw [Segment.written, pieces_literal, hrest, Segment.pieces]
    | field name =>
      have hfield := pieces_field (named name List.mem_cons_self)
        (segments.flatMap Segment.written ++ rest)
      rw [Segment.written, List.append_assoc, List.singleton_append, hfield, hrest, Segment.pieces,
        List.singleton_append]

theorem pieces_written_segments :
    pieces none (written segments).toList = segments.flatMap Segment.pieces := by
  simpa [written, pieces] using pieces_written named []

end Pieces

section Filling

/-- What is filled behind a text, with that text in front. -/
def behind (text : List Char) (filled : Except Flaw (Option (List Char))) :
    Except Flaw (Option (List Char)) :=
  filled.map (·.map (text ++ ·))

theorem behind_nil (filled : Except Flaw (Option (List Char))) : behind [] filled = filled := by
  rcases filled with _ | _ | _ <;> rfl

theorem behind_behind (first second : List Char) (filled : Except Flaw (Option (List Char))) :
    behind first (behind second filled) = behind (first ++ second) filled := by
  rcases filled with _ | _ | rest
  · rfl
  · rfl
  · exact congrArg (fun text => Except.ok (some text)) (List.append_assoc first second rest).symm

theorem fill_literal (details : Members) (text : List Char) (rest : List Piece) :
    fill details (text.map .char ++ rest) = behind text (fill details rest) := by
  induction text with
  | nil => exact (behind_nil _).symm
  | cons c text ih =>
    rw [List.map_cons, List.cons_append, fill, ih]
    exact behind_behind [c] text _

theorem fill_field {name : String} (named : IsName name) (short : IsShort name)
    (details : Members) (rest : List Piece) :
    fill details (.field name.toList :: rest) =
      match details.lookup name with
      | none => .ok none
      | some value => behind value.display.toList (fill details rest) := by
  rw [fill, detail?_eq named, if_pos short]
  cases details.lookup name with
  | none => rfl
  | some value => rfl

variable {segments : List Segment} (named : ∀ name, .field name ∈ segments → IsName name)
  (short : ∀ name, .field name ∈ segments → IsShort name) {details : Members}
include named short

/-- Segments that are all bound are filled with their texts, and no text is read again. -/
theorem fill_bound {values : String → Json}
    (bound : ∀ name, .field name ∈ segments → details.lookup name = some (values name))
    (rest : List Piece) :
    fill details (segments.flatMap Segment.pieces ++ rest) =
      behind (segments.flatMap (Segment.text values)) (fill details rest) := by
  induction segments with
  | nil => exact (behind_nil _).symm
  | cons segment segments ih =>
    have hrest := ih (fun name h => named name (.tail _ h)) (fun name h => short name (.tail _ h))
      (fun name h => bound name (.tail _ h))
    rw [List.flatMap_cons, List.flatMap_cons, List.append_assoc, ← behind_behind, ← hrest]
    cases segment with
    | literal text => exact fill_literal details text.toList _
    | field name =>
      have hname : Segment.field name ∈ .field name :: segments := .head _
      rw [Segment.pieces, List.singleton_append, fill_field (named name hname) (short name hname),
        bound name hname, Segment.text]

/-- A name that is bound to nothing leaves no text, whatever is in front of it or behind. -/
theorem fill_unbound {name : String} (mem : .field name ∈ segments)
    (unbound : details.lookup name = none) (rest : List Piece) :
    fill details (segments.flatMap Segment.pieces ++ rest) = .ok none := by
  induction segments with
  | nil => cases mem
  | cons segment segments ih =>
    have hlater (h : .field name ∈ segments) :=
      ih (fun name h => named name (.tail _ h)) (fun name h => short name (.tail _ h)) h
    rw [List.flatMap_cons, List.append_assoc]
    cases segment with
    | literal text =>
      have hmem : .field name ∈ segments := by simpa using mem
      rw [Segment.pieces, fill_literal, hlater hmem]
      rfl
    | field other =>
      have hother : Segment.field other ∈ .field other :: segments := .head _
      rw [Segment.pieces, List.singleton_append, fill_field (named other hother)
        (short other hother)]
      cases hlookup : details.lookup other with
      | none => rfl
      | some value =>
        have hmem : .field name ∈ segments := by
          rcases List.mem_cons.mp mem with hsame | h
          · cases hsame
            cases unbound.symm.trans hlookup
          · exact h
        rw [hlater hmem]
        rfl

end Filling

/-- The number in front of a name is read as a position before the name is looked up. -/
theorem fill_overlong {name : String} (named : IsName name) (long : ¬ IsShort name)
    (details : Members) (rest : List Piece) :
    fill details (.field name.toList :: rest) = .error .numberTooLarge := by
  rw [fill, detail?_eq named, if_neg long]

/-- A written template is filled piece by piece, as its segments are. -/
theorem make_written {segments : List Segment}
    (named : ∀ name, .field name ∈ segments → IsName name) (path : Path) (kind : Kind)
    (details : Members) :
    Violation.make path kind details (some (written segments)) =
      (fill details (segments.flatMap Segment.pieces)).map fun filled =>
        ⟨path, kind, details, (filled.map String.ofList).getD (written segments)⟩ := by
  change (render (written segments) details).map _ = _
  rw [render, pieces_written_segments named]
  rcases fill details (segments.flatMap Segment.pieces) with _ | _ <;> rfl

/-- A literal brace stands right in front of a name. -/
def besideBraces : List Segment :=
  [.literal "\x7b", .field "a", .literal "\x7d", .field "b"]

/-- The value of one name has the look of another one's field. -/
def fieldLike : Members :=
  [("a", .str "\x7bb\x7d"), ("b", .int 1)]

theorem forall_besideBraces {p : String → Prop} (first : p "a") (second : p "b") :
    ∀ name, .field name ∈ besideBraces → p name := by
  intro name mem
  obtain rfl | rfl : name = "a" ∨ name = "b" := by simpa [besideBraces] using mem
  · exact first
  · exact second

end JsonSchema.Template
