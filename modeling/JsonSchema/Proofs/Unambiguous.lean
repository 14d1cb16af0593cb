import JsonSchema.Proofs.Quoting
import JsonSchema.Proofs.Spelling

/-! The text of a value can be read in one way only: it determines the value and where the
value ends, so no string or name can imitate structure. -/
namespace JsonSchema.Json

open Reader

/-- The characters of the words and numbers that stand outside of strings. -/
def isWordChar (c : Char) : Bool :=
  c.isAlphanum || c = '-' || c = '+' || c = '.'

def IsWord (cs : List Char) : Prop := ∀ c ∈ cs, isWordChar c = true

/-- What may follow a word without running into it. -/
def Stops (rest : List Char) : Prop := ∀ c ∈ rest.head?, isWordChar c = false

theorem isWord_of_all {cs : List Char} (h : cs.all isWordChar = true) : IsWord cs :=
  List.all_eq_true.mp h

theorem IsWord.append {cs ds : List Char} (h : IsWord cs) (h' : IsWord ds) : IsWord (cs ++ ds) := by
  intro c hc
  rcases List.mem_append.mp hc with hc | hc
  · exact h c hc
  · exact h' c hc

theorem IsWord.cons {c : Char} {cs : List Char} (hc : isWordChar c = true) (h : IsWord cs) :
    IsWord (c :: cs) := by
  simpa [IsWord, hc] using h

theorem isWord_of_allDigits {cs : List Char} (h : AllDigits cs) : IsWord cs := by
  intro c hc
  have hdigit := h c hc
  simp only [isDigit, Bool.and_eq_true, decide_eq_true_eq] at hdigit
  have halpha : c.isDigit = true := by
    simp only [Char.isDigit, Bool.and_eq_true, decide_eq_true_eq]
    exact hdigit
  simp [isWordChar, Char.isAlphanum, halpha]

/-- A word ends where something else begins. -/
theorem IsWord.append_inj {u v rest rest' : List Char} (hu : IsWord u) (hv : IsWord v)
    (hrest : Stops rest) (hrest' : Stops rest') (h : u ++ rest = v ++ rest') :
    u = v ∧ rest = rest' := by
  have htake : ∀ {u rest : List Char}, IsWord u → Stops rest →
      (u ++ rest).takeWhile isWordChar = u := by
    intro u rest hu hrest
    rw [List.takeWhile_append_of_pos hu]
    cases rest with
    | nil => simp
    | cons c rest => simp [hrest c rfl]
  have huv : u = v := by rw [← htake hu hrest, h, htake hv hrest']
  subst huv
  exact ⟨rfl, List.append_cancel_left h⟩

theorem IsWord.signed {cs : List Char} (h : IsWord cs) (negative : Bool) :
    IsWord (if negative then '-' :: cs else cs) := by
  cases negative with
  | false => exact h
  | true => exact .cons rfl h

theorem isWord_positional {digits : List Char} (h : AllDigits digits) (before : Int) :
    IsWord (Decimal.positional digits before) := by
  have hzeros := fun count => isWord_of_allDigits (allDigits_zeros count)
  have htake := isWord_of_allDigits fun c hc => h c (List.mem_of_mem_take (i := before.natAbs) hc)
  have hdrop := isWord_of_allDigits fun c hc => h c (List.mem_of_mem_drop (i := before.natAbs) hc)
  unfold Decimal.positional
  split
  · exact .cons rfl (.cons rfl ((hzeros _).append (isWord_of_allDigits h)))
  · refine (htake.append (hzeros _)).append (.cons rfl ?_)
    split
    · exact hzeros 1
    · exact hdrop

theorem isWord_scientific {digits : List Char} (h : AllDigits digits) (exponent : Int) :
    IsWord (Decimal.scientific digits exponent) := by
  have hzeros := fun count => isWord_of_allDigits (allDigits_zeros count)
  have htens := isWord_of_allDigits (allDigits_toDigits exponent.natAbs)
  have htake := isWord_of_allDigits fun c hc => h c (List.mem_of_mem_take (i := 1) hc)
  have hdrop := isWord_of_allDigits fun c hc => h c (List.mem_of_mem_drop (i := 1) hc)
  have hsign : IsWord ['e', if exponent < 0 then '-' else '+'] := by
    split <;> exact isWord_of_all rfl
  unfold Decimal.scientific
  refine (((htake.append ?_).append hsign).append (hzeros _)).append htens
  split
  · exact hzeros 0
  · exact .cons rfl hdrop

theorem isWord_decimal (d : Decimal) : IsWord d.chars := by
  have hdigits : AllDigits (Decimal.withoutTrailingZeros (Nat.toDigits 10 d.digits)) := by
    obtain ⟨count, hcount⟩ := Decimal.withoutTrailingZeros_append (Nat.toDigits 10 d.digits)
    have hall := allDigits_toDigits d.digits
    rw [hcount] at hall
    exact fun c hc => hall c (List.mem_append_left _ hc)
  unfold Decimal.chars
  dsimp only
  split
  · exact isWord_positional hdigits _
  · exact isWord_scientific hdigits _

theorem isWord_text (x : Double) : IsWord (x.text floatSpelling).toList := by
  cases x with
  | nan => exact isWord_of_all rfl
  | infinity negative => cases negative <;> exact isWord_of_all rfl
  | finite negative rank =>
    have hchars : IsWord (if rank.val = 0 then ['0', '.', '0']
        else (Decimal.shortest rank).chars) := by
      split
      · exact isWord_of_all rfl
      · exact isWord_decimal _
    unfold Double.text
    dsimp only
    rw [String.toList_ofList]
    exact hchars.signed negative

theorem isWord_integerChars (n : Int) : IsWord (integerChars n) := by
  have hdigits := isWord_of_allDigits (allDigits_toDigits n.natAbs)
  unfold integerChars
  split
  · exact .cons rfl hdigits
  · exact hdigits

theorem integerChars_injective {n m : Int} (h : integerChars n = integerChars m) : n = m := by
  have hread : ∀ {a b : Nat}, Nat.toDigits 10 a = Nat.toDigits 10 b → a = b := by
    intro a b hab
    rw [← natOfDigits_toDigits a, hab, natOfDigits_toDigits]
  have hminus : ∀ {a : Nat} {cs : List Char}, Nat.toDigits 10 a ≠ '-' :: cs := by
    intro a cs ha
    have := allDigits_toDigits a '-' (by rw [ha]; exact List.mem_cons_self)
    simp [isDigit] at this
  unfold integerChars at h
  split at h <;> split at h
  · have := hread (List.cons.inj h).2
    omega
  · exact absurd h.symm hminus
  · exact absurd h hminus
  · have := hread h
    omega

/-- An integer is read as no double, however long it is. -/
theorem scalar_integerChars (n : Int) :
    scalar (integerChars n) = .ok (.int n, []) ∨
      ∃ count, scalar (integerChars n) = .error (.tooManyDigits count) := by
  have hread := fun negative => unsigned_whole (isWhole_toDigits n.natAbs) negative
  obtain ⟨c, rest, hcons⟩ := List.exists_cons_of_ne_nil (Nat.toDigits_ne_nil (n := n.natAbs) (b := 10))
  have hc : isDigit c = true := allDigits_toDigits n.natAbs c (by rw [hcons]; exact List.mem_cons_self)
  have hvalue := natOfDigits_toDigits n.natAbs
  rw [hcons] at hvalue
  simp only [hcons, hvalue] at hread
  unfold integerChars
  rw [hcons]
  split
  · rename_i hneg
    rw [scalar_minus_digit hc, hread true]
    split
    · exact .inr ⟨_, rfl⟩
    · rw [if_pos rfl, show -(n.natAbs : Int) = n by omega]
      exact .inl rfl
  · rename_i hpos
    rw [scalar_digit hc, hread false]
    split
    · exact .inr ⟨_, rfl⟩
    · rw [if_neg Bool.false_ne_true, show (n.natAbs : Int) = n by omega]
      exact .inl rfl

/-- Which mark a value starts with, for those that are not a word or a number. -/
def mark? : Json → Option Char
  | .str _ => some '"'
  | .arr _ => some '['
  | .obj _ => some '\x7b'
  | _ => none

theorem chars_of_mark? {value : Json} {c : Char} (h : value.mark? = some c) :
    isWordChar c = false ∧ c ≠ ']' ∧ ∃ rest, value.chars = c :: rest := by
  cases value <;> cases h
  · exact ⟨by decide, by decide, _, rfl⟩
  · exact ⟨by decide, by decide, _, rfl⟩
  · exact ⟨by decide, by decide, _, rfl⟩

theorem chars_ne_nil (value : Json) : value.chars ≠ [] := by
  cases value with
  | null => simp [chars]
  | bool b => cases b <;> simp [chars]
  | int n => 
    unfold chars integerChars
    split <;> simp [Nat.toDigits_ne_nil]
  | float x =>
    intro hnil
    have hread := scalar_text x
    rw [chars] at hnil
    rw [hnil] at hread
    cases hread
  | str s => simp [chars, quoted]
  | arr items => simp [chars]
  | obj members => simp [chars]

theorem isWord_chars {value : Json} (h : value.mark? = none) : IsWord value.chars := by
  cases value with
  | null => exact isWord_of_all rfl
  | bool b => cases b <;> exact isWord_of_all rfl
  | int n => exact isWord_integerChars n
  | float x => exact isWord_text x
  | _ => cases h

theorem scalar_chars {value : Json} (h : value.mark? = none) :
    scalar value.chars = .ok (value, []) ∨
      ∃ n count, value = .int n ∧ scalar value.chars = .error (.tooManyDigits count) := by
  cases value with
  | null => exact .inl rfl
  | bool b => cases b <;> exact .inl rfl
  | int n => exact (scalar_integerChars n).imp id fun ⟨count, hcount⟩ => ⟨n, count, rfl, hcount⟩
  | float x => exact .inl (scalar_text x)
  | _ => cases h

theorem word_injective {a b : Json} (ha : a.mark? = none) (hb : b.mark? = none)
    (h : a.chars = b.chars) : a = b := by
  have hreadB := scalar_chars hb
  rw [← h] at hreadB
  rcases scalar_chars ha with hread | ⟨n, count, rfl, hread⟩ <;>
    rcases hreadB with hread' | ⟨m, count', rfl, hread'⟩
  · rw [hread] at hread'
    simpa using hread'
  · simp [hread] at hread'
  · simp [hread] at hread'
  · exact congrArg Json.int (integerChars_injective h)

/-- Values whose texts start alike start with the same mark, or both with none. -/
theorem mark?_eq {a b : Json} {rest rest' : List Char} (h : a.chars ++ rest = b.chars ++ rest') :
    a.mark? = b.mark? := by
  have hword : ∀ {a b : Json} {rest rest' : List Char}, a.chars ++ rest = b.chars ++ rest' →
      a.mark? = none → b.mark? = none := by
    intro a b rest rest' h ha
    cases hb : b.mark? with
    | none => rfl
    | some c =>
      obtain ⟨hc, -, tail, htail⟩ := chars_of_mark? hb
      obtain ⟨d, more, hcons⟩ := List.exists_cons_of_ne_nil (chars_ne_nil a)
      have hd := isWord_chars ha d (by rw [hcons]; exact List.mem_cons_self)
      rw [hcons, htail, List.cons_append, List.cons_append, List.cons.injEq] at h
      rw [h.1, hc] at hd
      cases hd
  cases ha : a.mark? with
  | none => exact (hword h ha).symm
  | some c =>
    cases hb : b.mark? with
    | none => rw [hword h.symm hb] at ha; cases ha
    | some d =>
      obtain ⟨-, -, tail, htail⟩ := chars_of_mark? ha
      obtain ⟨-, -, tail', htail'⟩ := chars_of_mark? hb
      rw [htail, htail', List.cons_append, List.cons_append, List.cons.injEq] at h
      rw [h.1]

theorem bracket_append_ne {value : Json} {rest rest' : List Char} :
    value.chars ++ rest ≠ ']' :: rest' := by
  intro h
  obtain ⟨d, more, hcons⟩ := List.exists_cons_of_ne_nil (chars_ne_nil value)
  rw [hcons, List.cons_append, List.cons.injEq] at h
  cases hmark : value.mark? with
  | none =>
    have hd := isWord_chars hmark d (by rw [hcons]; exact List.mem_cons_self)
    rw [h.1] at hd
    exact absurd hd (by decide)
  | some c =>
    obtain ⟨-, hc, tail, htail⟩ := chars_of_mark? hmark
    rw [hcons, List.cons.injEq] at htail
    exact hc (htail.1.symm.trans h.1)

/-- What follows the first item of an array. -/
def charsAfterItem : List Json → List Char
  | [] => []
  | rest => ',' :: charsOfItems rest

/-- What follows the first member of an object. -/
def charsAfterMember : Members → List Char
  | [] => []
  | rest => ',' :: charsOfMembers rest

theorem charsOfItems_cons (item : Json) (rest : List Json) :
    charsOfItems (item :: rest) = item.chars ++ charsAfterItem rest := by
  cases rest with
  | nil => simp [charsOfItems, charsAfterItem]
  | cons next rest => rfl

theorem charsOfMembers_cons (name : String) (value : Json) (rest : Members) :
    charsOfMembers ((name, value) :: rest) =
      quoted name ++ ':' :: (value.chars ++ charsAfterMember rest) := by
  cases rest with
  | nil => simp [charsOfMembers, charsAfterMember]
  | cons next rest => simp [charsOfMembers, charsAfterMember]

theorem stops_charsAfterItem (items : List Json) (rest : List Char) :
    Stops (charsAfterItem items ++ ']' :: rest) := by
  cases items <;> simp [Stops, charsAfterItem] <;> decide

theorem stops_charsAfterMember (members : Members) (rest : List Char) :
    Stops (charsAfterMember members ++ '\x7d' :: rest) := by
  cases members <;> simp [Stops, charsAfterMember] <;> decide

theorem charsAfterItem_append {items items' : List Json} {rest rest' : List Char}
    (h : charsAfterItem items ++ ']' :: rest = charsAfterItem items' ++ ']' :: rest') :
    charsOfItems items ++ ']' :: rest = charsOfItems items' ++ ']' :: rest' := by
  cases items <;> cases items' <;> simp_all [charsAfterItem, charsOfItems]

theorem charsAfterMember_append {members members' : Members} {rest rest' : List Char}
    (h : charsAfterMember members ++ '\x7d' :: rest = charsAfterMember members' ++ '\x7d' :: rest') :
    charsOfMembers members ++ '\x7d' :: rest = charsOfMembers members' ++ '\x7d' :: rest' := by
  cases members <;> cases members' <;> simp_all [charsAfterMember, charsOfMembers]

mutual

/-- A value can be told from the text it starts, and so can the rest. -/
theorem chars_append_injective {a b : Json} {rest rest' : List Char} (hrest : Stops rest)
    (hrest' : Stops rest') (h : a.chars ++ rest = b.chars ++ rest') : a = b ∧ rest = rest' := by
  have hmark := mark?_eq h
  match a, b with
  | .arr items, .arr items' =>
    obtain ⟨rfl, rfl⟩ := charsOfItems_append_injective (by simpa [chars] using h)
    exact ⟨rfl, rfl⟩
  | .obj members, .obj members' =>
    obtain ⟨rfl, rfl⟩ := charsOfMembers_append_injective (by simpa [chars] using h)
    exact ⟨rfl, rfl⟩
  | .str s, .str t =>
    obtain ⟨rfl, rfl⟩ := quoted_append_injective h
    exact ⟨rfl, rfl⟩
  | .null, b | .bool _, b | .int _, b | .float _, b =>
    have hb : b.mark? = none := hmark.symm
    obtain ⟨hchars, rfl⟩ := (isWord_chars rfl).append_inj (isWord_chars hb) hrest hrest' h
    exact ⟨word_injective rfl hb hchars, rfl⟩

theorem charsOfItems_append_injective {items items' : List Json} {rest rest' : List Char}
    (h : charsOfItems items ++ ']' :: rest = charsOfItems items' ++ ']' :: rest') :
    items = items' ∧ rest = rest' := by
  match items, items' with
  | [], [] => exact ⟨rfl, (List.cons.inj h).2⟩
  | [], item :: tail =>
    rw [charsOfItems_cons, List.append_assoc] at h
    exact absurd h.symm bracket_append_ne
  | item :: tail, [] =>
    rw [charsOfItems_cons, List.append_assoc] at h
    exact absurd h bracket_append_ne
  | item :: tail, item' :: tail' =>
    rw [charsOfItems_cons, charsOfItems_cons, List.append_assoc, List.append_assoc] at h
    obtain ⟨rfl, htail⟩ := chars_append_injective (stops_charsAfterItem tail rest)
      (stops_charsAfterItem tail' rest') h
    obtain ⟨rfl, rfl⟩ := charsOfItems_append_injective (charsAfterItem_append htail)
    exact ⟨rfl, rfl⟩

theorem charsOfMembers_append_injective {members members' : Members} {rest rest' : List Char}
    (h : charsOfMembers members ++ '\x7d' :: rest = charsOfMembers members' ++ '\x7d' :: rest') :
    members = members' ∧ rest = rest' := by
  match members, members' with
  | [], [] => exact ⟨rfl, (List.cons.inj h).2⟩
  | [], (name, value) :: tail =>
    rw [charsOfMembers_cons] at h
    simp [quoted, charsOfMembers] at h
  | (name, value) :: tail, [] =>
    rw [charsOfMembers_cons] at h
    simp [quoted, charsOfMembers] at h
  | (name, value) :: tail, (name', value') :: tail' =>
    rw [charsOfMembers_cons, charsOfMembers_cons, List.append_assoc, List.append_assoc] at h
    obtain ⟨rfl, hvalue⟩ := quoted_append_injective h
    rw [List.cons_append, List.cons_append, List.cons.injEq, List.append_assoc,
      List.append_assoc] at hvalue
    obtain ⟨rfl, htail⟩ := chars_append_injective (stops_charsAfterMember tail rest)
      (stops_charsAfterMember tail' rest') hvalue.2
    obtain ⟨rfl, rfl⟩ := charsOfMembers_append_injective (charsAfterMember_append htail)
    exact ⟨rfl, rfl⟩

end

/-- Different values have different texts. -/
theorem text_injective : Function.Injective Json.text := by
  intro a b h
  have hchars : a.chars ++ [] = b.chars ++ [] := by simpa [text] using congrArg String.toList h
  exact (chars_append_injective (by simp [Stops]) (by simp [Stops]) hchars).1

end JsonSchema.Json
