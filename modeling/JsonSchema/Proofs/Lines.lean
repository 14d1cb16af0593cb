import Mathlib.Data.List.DropRight
import JsonSchema.Records

/-! The lines of a text, and the texts that stand on them. White space at the ends of a whole
text stands on its first and last lines: without it the texts are the same, with numbers that
do not count the blank lines before the first of them. -/
namespace JsonSchema.Text

/-- The lines of a text. A line ends with a line feed, with a carriage return, or with both in
this order; the last one ends with the text. -/
def lines : List Char → List (List Char)
  | [] => [[]]
  | '\r' :: '\n' :: rest => [] :: lines rest
  | '\r' :: rest => [] :: lines rest
  | '\n' :: rest => [] :: lines rest
  | c :: rest =>
    match lines rest with
    | [] => [[c]]
    | line :: more => (c :: line) :: more

theorem split_unifyLineEnds (cs : List Char) :
    split '\n' (Records.unifyLineEnds cs) = lines cs := by
  fun_induction lines cs with
  | case1 => rfl
  | case2 rest ih => rw [Records.unifyLineEnds, split, if_pos rfl, ih]
  | case3 rest hreturn ih =>
    rw [Records.unifyLineEnds, split, if_pos rfl, ih]
    exact fun more hmore => hreturn more hmore
  | case4 rest ih =>
    rw [Records.unifyLineEnds, split, if_pos rfl, ih]
    · nofun
    · nofun
  | case5 c rest hboth hreturn hfeed hrest ih =>
    exact absurd (ih.trans hrest) (split_ne_nil _ _)
  | case6 c rest hboth hreturn hfeed line more hrest ih =>
    rw [Records.unifyLineEnds, split, if_neg (hfeed ·), ih, hrest]
    · exact hboth
    · exact hreturn

def isBlankLine (line : List Char) : Bool :=
  line.all isBlank

/-- The texts on the lines that are not blank, without the white space around them, with the
numbers of the lines from a given one on. -/
def numbered : Nat → List (List Char) → List (Nat × List Char)
  | _, [] => []
  | n, line :: rest =>
    if isBlankLine line then numbered (n + 1) rest else (n, strip line) :: numbered (n + 1) rest

theorem strip_eq (cs : List Char) : strip cs = (cs.dropWhile isBlank).rdropWhile isBlank := rfl

theorem strip_cons_blank {c : Char} (blank : isBlank c) (cs : List Char) :
    strip (c :: cs) = strip cs := by
  rw [strip_eq, strip_eq, List.dropWhile_cons_of_pos blank]

theorem strip_append_blank {c : Char} (blank : isBlank c) (cs : List Char) :
    strip (cs ++ [c]) = strip cs := by
  rw [strip_eq, strip_eq]
  induction cs with
  | nil => rw [List.nil_append, List.dropWhile_cons_of_pos blank]
  | cons d rest ih =>
    cases hd : isBlank d with
    | true =>
      rw [List.cons_append, List.dropWhile_cons_of_pos hd, ih, List.dropWhile_cons_of_pos hd]
    | false =>
      have hd' : ¬ isBlank d = true := by simp [hd]
      rw [List.cons_append, List.dropWhile_cons_of_neg hd', List.dropWhile_cons_of_neg hd',
        ← List.cons_append, List.rdropWhile_concat_pos _ _ _ blank]

theorem isBlankLine_cons_blank {c : Char} (blank : isBlank c) (line : List Char) :
    isBlankLine (c :: line) = isBlankLine line := by
  rw [isBlankLine, isBlankLine, List.all_cons, blank, Bool.true_and]

theorem isEmpty_strip (line : List Char) : (strip line).isEmpty = isBlankLine line := by
  induction line with
  | nil => rfl
  | cons c rest ih =>
    cases hc : isBlank c with
    | true => rw [strip_cons_blank hc, isBlankLine_cons_blank hc, ih]
    | false =>
      have hc' : ¬ isBlank c = true := by simp [hc]
      rw [isBlankLine, List.all_cons, hc, Bool.false_and, List.isEmpty_eq_false_iff, strip_eq,
        List.dropWhile_cons_of_neg hc', Ne, List.rdropWhile_eq_nil_iff]
      exact fun blank => hc' (blank c List.mem_cons_self)

theorem numbered_append (n : Nat) (ls ls' : List (List Char)) :
    numbered n (ls ++ ls') = numbered n ls ++ numbered (n + ls.length) ls' := by
  induction ls generalizing n with
  | nil => rfl
  | cons line rest ih =>
    rw [List.cons_append, numbered, numbered, ih, List.length_cons, Nat.add_right_comm,
      Nat.add_assoc]
    split <;> rfl

theorem numbered_add (n k : Nat) (ls : List (List Char)) :
    numbered (n + k) ls = (numbered n ls).map fun (i, text) => (i + k, text) := by
  induction ls generalizing n with
  | nil => rfl
  | cons line rest ih =>
    rw [numbered, numbered, Nat.add_right_comm, ih]
    split <;> rfl

theorem numbered_blank {line : List Char} (blank : isBlankLine line) (n : Nat) :
    numbered n [line] = [] := by
  rw [numbered, if_pos blank, numbered]

/-- How many lines are blank before the first that is not. -/
def leadingBlankLines (ls : List (List Char)) : Nat :=
  (ls.takeWhile isBlankLine).length

/-- Without the blank lines before them, the others have smaller numbers. -/
theorem numbered_eq_dropWhile (n : Nat) (ls : List (List Char)) :
    numbered n ls = numbered (n + leadingBlankLines ls) (ls.dropWhile isBlankLine) := by
  induction ls generalizing n with
  | nil => rfl
  | cons line rest ih =>
    cases hline : isBlankLine line with
    | true =>
      rw [numbered, if_pos hline, ih, leadingBlankLines, leadingBlankLines,
        List.takeWhile_cons_of_pos hline, List.dropWhile_cons_of_pos hline, List.length_cons,
        Nat.add_right_comm, Nat.add_assoc]
    | false =>
      have hline' : ¬ isBlankLine line = true := by simp [hline]
      rw [leadingBlankLines, List.takeWhile_cons_of_neg hline', List.dropWhile_cons_of_neg hline']
      rfl

theorem split_cons_of_ne {stop c : Char} (h : c ≠ stop) (cs : List Char) :
    ∃ part parts, split stop cs = part :: parts ∧ split stop (c :: cs) = (c :: part) :: parts := by
  obtain ⟨part, parts, hcs⟩ := List.exists_cons_of_ne_nil (split_ne_nil stop cs)
  exact ⟨part, parts, hcs, by rw [split, if_neg h, hcs]⟩

/-- A character at the end belongs to the last part, or ends it. -/
theorem split_concat (stop c : Char) (cs : List Char) :
    ∃ parts last, split stop cs = parts ++ [last] ∧
      split stop (cs ++ [c]) = parts ++ if c = stop then [last, []] else [last ++ [c]] := by
  induction cs with
  | nil =>
    refine ⟨[], [], rfl, ?_⟩
    rw [List.nil_append, List.nil_append, split]
    rfl
  | cons d rest ih =>
    obtain ⟨parts, last, hrest, hconcat⟩ := ih
    by_cases hd : d = stop
    · refine ⟨[] :: parts, last, ?_, ?_⟩
      · rw [split, if_pos hd, hrest, List.cons_append]
      · rw [List.cons_append, split, if_pos hd, hconcat, List.cons_append]
    · rw [List.cons_append, split, if_neg hd, split, if_neg hd, hrest, hconcat]
      cases parts with
      | cons part parts => exact ⟨(d :: part) :: parts, last, rfl, rfl⟩
      | nil =>
        refine ⟨[], d :: last, rfl, ?_⟩
        by_cases hc : c = stop
        · rw [if_pos hc, if_pos hc]
          rfl
        · rw [if_neg hc, if_neg hc]
          rfl

/-- White space at the end of a text is on lines that are blank, or at the end of one. -/
theorem numbered_split_concat {c : Char} (blank : isBlank c) (n : Nat) (cs : List Char) :
    numbered n (split '\n' (cs ++ [c])) = numbered n (split '\n' cs) := by
  obtain ⟨parts, last, hcs, hconcat⟩ := split_concat '\n' c cs
  rw [hcs, hconcat]
  by_cases hc : c = '\n'
  · rw [if_pos hc, ← List.singleton_append, ← List.append_assoc, numbered_append,
      numbered_blank rfl, List.append_nil]
  · have hlast :
        numbered (n + parts.length) [last ++ [c]] = numbered (n + parts.length) [last] := by
      simp only [numbered, ← isEmpty_strip, strip_append_blank blank]
    rw [if_neg hc, numbered_append, numbered_append, hlast]

theorem numbered_split_rdropWhile (n : Nat) (cs : List Char) :
    numbered n (split '\n' (cs.rdropWhile isBlank)) = numbered n (split '\n' cs) := by
  induction cs using List.reverseRecOn with
  | nil => rfl
  | append_singleton cs c ih =>
    cases hc : isBlank c with
    | true => rw [List.rdropWhile_concat_pos _ _ _ hc, ih, numbered_split_concat hc]
    | false => rw [List.rdropWhile_concat_neg _ _ _ (by simp [hc])]

/-- Without the white space at its start, a text begins with its first line that is not
blank. -/
theorem numbered_split_dropWhile (n : Nat) (cs : List Char) :
    numbered n (split '\n' (cs.dropWhile isBlank)) =
      numbered n ((split '\n' cs).dropWhile isBlankLine) := by
  induction cs with
  | nil => rfl
  | cons c rest ih =>
    cases hc : isBlank c with
    | true =>
      rw [List.dropWhile_cons_of_pos hc, ih]
      by_cases hfeed : c = '\n'
      · rw [split, if_pos hfeed, List.dropWhile_cons_of_pos rfl]
      · obtain ⟨part, parts, hrest, hcons⟩ := split_cons_of_ne hfeed rest
        have hblank := isBlankLine_cons_blank hc part
        rw [hrest, hcons]
        cases hpart : isBlankLine part with
        | true =>
          rw [List.dropWhile_cons_of_pos hpart, List.dropWhile_cons_of_pos (hblank.trans hpart)]
        | false =>
          have hpart' : ¬ isBlankLine part = true := by simp [hpart]
          rw [List.dropWhile_cons_of_neg hpart', List.dropWhile_cons_of_neg (hblank ▸ hpart'),
            numbered, numbered, hblank, strip_cons_blank hc]
    | false =>
      have hc' : ¬ isBlank c = true := by simp [hc]
      have hfeed : c ≠ '\n' := by
        rintro rfl
        exact hc' rfl
      obtain ⟨part, parts, _, hcons⟩ := split_cons_of_ne hfeed rest
      rw [List.dropWhile_cons_of_neg hc', hcons, List.dropWhile_cons_of_neg]
      rw [isBlankLine, List.all_cons, hc]
      nofun

/-- The texts on the lines of a text without the white space around it. -/
theorem numbered_split_strip (n : Nat) (cs : List Char) :
    numbered n (split '\n' cs) =
      (numbered n (split '\n' (strip cs))).map fun (i, text) =>
        (i + leadingBlankLines (split '\n' cs), text) := by
  rw [strip_eq, numbered_split_rdropWhile, numbered_split_dropWhile, ← numbered_add,
    ← numbered_eq_dropWhile]

end JsonSchema.Text
