import JsonSchema.Proofs.Pointer
import Mathlib.Data.List.TakeWhile
import Mathlib.Data.Nat.Digits.Defs

/-! A fragment reference leads to the node whose pointer it spells out, whatever characters
the keys on the way hold, unless it spells out a name of the table. -/
namespace JsonSchema

namespace Text

/-- A percent sign is escaped, so that no piece of a text is taken for an escaped byte. -/
def escapePercent (cs : List Char) : List Char :=
  cs.flatMap fun c => if c = '%' then ['%', '2', '5'] else [c]

theorem escapePercent_append (cs ds : List Char) :
    escapePercent (cs ++ ds) = escapePercent cs ++ escapePercent ds :=
  List.flatMap_append

theorem escapePercent_cons_of_ne {c : Char} (h : c ≠ '%') (cs : List Char) :
    escapePercent (c :: cs) = c :: escapePercent cs := by
  rw [escapePercent, List.flatMap_cons, if_neg h]
  rfl

theorem escapePercent_percent (cs : List Char) :
    escapePercent ('%' :: cs) = '%' :: '2' :: '5' :: escapePercent cs := rfl

theorem unescapedBytes_cons_of_ne {c : Char} (h : c ≠ '%') (cs : List Char) :
    unescapedBytes (c :: cs) = c.toNat :: unescapedBytes cs := by
  rw [unescapedBytes]
  intro a b rest hc
  exact absurd hc h

theorem unescapedBytes_escapePercent (cs : List Char) :
    unescapedBytes (escapePercent cs) = cs.map Char.toNat := by
  induction cs with
  | nil => rfl
  | cons c rest ih =>
    by_cases h : c = '%'
    · subst h
      rw [escapePercent_percent, List.map_cons, ← ih]
      rfl
    · rw [escapePercent_cons_of_ne h, unescapedBytes_cons_of_ne h, ih, List.map_cons]

theorem decodeUtf8_ascii {cs : List Char} (ascii : ∀ c ∈ cs, isAscii c = true) :
    decodeUtf8 none (cs.map Char.toNat) = cs := by
  induction cs with
  | nil => rfl
  | cons c rest ih =>
    have hc : c.toNat < 0x80 := by simpa [isAscii] using ascii c List.mem_cons_self
    have hfeed : feed none c.toNat = ([c], none) := by
      rw [feed, first, if_pos hc, Char.ofNat_toNat]
    rw [List.map_cons, decodeUtf8, hfeed, ih fun d hd => ascii d (List.mem_cons_of_mem c hd)]
    rfl

/-- A run of ASCII characters is decoded as it was before it was escaped. -/
theorem decodeUtf8_escapePercent {cs : List Char} (ascii : ∀ c ∈ cs, isAscii c = true) :
    decodeUtf8 none (unescapedBytes (escapePercent cs)) = cs := by
  rw [unescapedBytes_escapePercent, decodeUtf8_ascii ascii]

/-- The characters `done` have been gone through: their escaped text is the run so far. -/
theorem percentDecode_run {done : List Char} (ascii : ∀ c ∈ done, isAscii c = true)
    (cs : List Char) :
    percentDecode (escapePercent done).reverse (escapePercent cs) = done ++ cs := by
  induction cs generalizing done with
  | nil =>
    change percentDecode (escapePercent done).reverse [] = done ++ []
    rw [percentDecode, List.reverse_reverse, decodeUtf8_escapePercent ascii, List.append_nil]
  | cons c rest ih =>
    have hmore (hc : isAscii c = true) :
        percentDecode (escapePercent (done ++ [c])).reverse (escapePercent rest) =
          done ++ c :: rest := by
      rw [ih (by simpa [or_imp, forall_and] using ⟨ascii, hc⟩), List.append_assoc,
        List.singleton_append]
    by_cases hpercent : c = '%'
    · subst hpercent
      rw [← hmore rfl, escapePercent_append, List.reverse_append]
      rfl
    rw [escapePercent_cons_of_ne hpercent, percentDecode]
    cases hc : isAscii c with
    | true =>
      rw [if_pos rfl, ← hmore hc, escapePercent_append, escapePercent_cons_of_ne hpercent,
        List.reverse_append]
      rfl
    | false =>
      have hrest := @ih [] (by simp)
      rw [if_neg (by simp), List.reverse_reverse, decodeUtf8_escapePercent ascii]
      exact congrArg (fun more => done ++ c :: more) hrest

theorem percentDecode_escapePercent (cs : List Char) : percentDecode [] (escapePercent cs) = cs :=
  @percentDecode_run [] (by simp) cs

namespace Integer

theorem toNat_of_isDigit {c : Char} (h : c.isDigit = true) : 48 ≤ c.toNat ∧ c.toNat ≤ 57 := by
  simp only [Char.isDigit, Bool.and_eq_true, decide_eq_true_eq] at h
  exact h

theorem digitValue?_of_isDigit {c : Char} (h : c.isDigit = true) :
    digitValue? c = some (c.toNat - '0'.toNat) := by
  obtain ⟨hlow, hhigh⟩ := toNat_of_isDigit h
  have hmod : (c.toNat - 48) % 10 = c.toNat - 48 := by omega
  simp [digitValue?, digitRanges, hlow, hhigh, hmod]

theorem digits?_digits {cs : List Char} (h : ∀ c ∈ cs, c.isDigit = true) (after : Bool)
    (some_digit : after = true ∨ cs ≠ []) :
    digits? after cs = some (cs.map fun c => c.toNat - '0'.toNat, []) := by
  induction cs generalizing after with
  | nil =>
    rcases some_digit with rfl | hne
    · rfl
    · exact absurd rfl hne
  | cons c rest ih =>
    rw [digits?, digitValue?_of_isDigit (h c List.mem_cons_self),
      ih (fun d hd => h d (List.mem_cons_of_mem c hd)) true (.inl rfl)]
    rfl

theorem ofDigits_toDigits (n : Nat) :
    ofDigits ((Nat.toDigits 10 n).map fun c => c.toNat - '0'.toNat) = n := by
  have hfold : ofDigits ((Nat.toDigits 10 n).map fun c => c.toNat - '0'.toNat) =
      Nat.ofDigitChars 10 (Nat.toDigits 10 n) 0 := by
    simp [ofDigits, Nat.ofDigitChars_eq_foldl, Nat.mul_comm, List.foldl_map]
  rw [hfold, Nat.ofDigitChars_ten_toDigits]

theorem isAround_of_isDigit {c : Char} (h : c.isDigit = true) : isAround c = false := by
  obtain ⟨hlow, hhigh⟩ := toNat_of_isDigit h
  have hspace : c ≠ ' ' := by
    rintro rfl
    cases h
  have hreturn : ¬ c ≤ '\x0d' := by
    intro hle
    have hnat : c.toNat ≤ 13 := hle
    omega
  have hdelete : ¬ 0x7F < c.toNat := by omega
  simp [isAround, hspace, hreturn, hdelete]

end Integer

/-- An integer is read back from its digits, as long as there are not too many to be read. -/
theorem integer_toDigits {n : Nat} (small : n < 10 ^ digitLimit) :
    integer (Nat.toDigits 10 n) = .ok (n : Int) := by
  have hdigits : ∀ c ∈ Nat.toDigits 10 n, c.isDigit = true := fun c hc =>
    Nat.isDigit_of_mem_toDigits (by decide) (by decide) hc
  have hlength : (Nat.toDigits 10 n).length ≤ digitLimit :=
    (Nat.length_toDigits_le_iff (by decide) (by decide)).mpr small
  have hunsigned : Integer.unsigned (Nat.toDigits 10 n) = .ok n := by
    rw [Integer.unsigned, Integer.digits?_digits hdigits false (.inr Nat.toDigits_ne_nil)]
    dsimp only
    rw [List.length_map, if_neg (Nat.not_lt.mpr hlength), Integer.ofDigits_toDigits]
    rfl
  cases hcs : Nat.toDigits 10 n with
  | nil => exact absurd hcs Nat.toDigits_ne_nil
  | cons c rest =>
    have hc : c.isDigit = true := hdigits c (by rw [hcs]; exact List.mem_cons_self)
    rw [hcs] at hunsigned
    rw [integer, List.dropWhile_cons_of_neg (by simp [Integer.isAround_of_isDigit hc])]
    split
    · rename_i hcons
      cases hcons
      exact absurd hc (by decide)
    · rename_i hcons
      cases hcons
      exact absurd hc (by decide)
    · rw [hunsigned]
      rfl

end Text

/-- The text of an index is read as that index. -/
theorem Pointer.place_integerText {n : Nat} (small : n < 10 ^ digitLimit) :
    place (integerText n) = .index n := by
  have htext : (integerText n).toList = Nat.toDigits 10 n := by
    have hchars : integerText n = String.ofList (Nat.toDigits 10 n) := rfl
    rw [hchars, String.toList_ofList]
  have hdigits : ∀ c ∈ Nat.toDigits 10 n, c.isDigit = true := fun c hc =>
    Nat.isDigit_of_mem_toDigits (by decide) (by decide) hc
  have hread := Text.integer_toDigits small
  unfold place
  rw [htext]
  cases hcs : Nat.toDigits 10 n with
  | nil => exact absurd hcs Nat.toDigits_ne_nil
  | cons c rest =>
    rw [hcs] at hdigits hread
    have hc : c.isDigit = true := hdigits c List.mem_cons_self
    have hrest : rest.dropWhile Char.isDigit = [] :=
      List.dropWhile_eq_nil_iff.mpr fun d hd => hdigits d (List.mem_cons_of_mem c hd)
    have hminus : c ≠ '-' := by
      rintro rfl
      exact absurd hc (by decide)
    by_cases hzero : c = '0'
    · subst hzero
      simp [hread]
    · simp [hread, hc, hrest, hminus]

/-- The fragment that spells out a path: its pointer, with percent signs escaped. -/
def Path.fragment (path : Path) : String :=
  String.ofList ('#' :: path.flatMap fun step =>
    '/' :: Text.escapePercent (escapeToken step.token))

theorem Path.toList_fragment (path : Path) :
    path.fragment.toList = '#' :: Text.escapePercent path.pointer.toList := by
  rw [fragment, String.toList_ofList, pointer, String.toList_ofList, Text.escapePercent,
    List.flatMap_assoc]
  rfl

/-- A fragment is read as the tokens of its path. -/
theorem Path.tokens?_fragment (path : Path) :
    Pointer.tokens? (Text.percentDecode [] (Text.escapePercent path.pointer.toList)) =
      some (path.map Step.token) := by
  rw [Text.percentDecode_escapePercent, Pointer.tokens?_pointer]

/-- No index on the path has more digits than are ever read; nor has an array of any size
that fits into a memory. -/
def Path.IsReadable (path : Path) : Prop :=
  ∀ i : Nat, Step.index i ∈ path → i < 10 ^ digitLimit

namespace Node

/-- A value at a path below a node. -/
def under (node : Node) (path : Path) (json : Json) : Node :=
  ⟨json, node.address.map fun a => ⟨a.origin, path.reverse ++ a.steps⟩⟩

theorem under_nil (node : Node) : node.under [] node.json = node := by
  obtain ⟨json, _ | address⟩ := node <;> rfl

theorem under_cons (node : Node) (step : Step) (rest : Path) (child json : Json) :
    (node.below step child).under rest json = node.under (step :: rest) json := by
  simp [under, below, Function.comp_def]

theorem step_token {node : Node} {step : Step} {child : Json}
    (h : node.json.child? step = some child) (readable : Path.IsReadable [step]) :
    Pointer.step node step.token = .found (node.below step child) := by
  unfold Pointer.step
  unfold Json.child? at h
  split at h
  · rename_i members name hjson
    rw [hjson]
    dsimp only
    rw [Step.token, member?, hjson]
    dsimp only
    rw [h]
    rfl
  · rename_i items i hjson
    split at h
    · rename_i hpos
      obtain ⟨n, rfl⟩ := Int.eq_ofNat_of_zero_le hpos
      rw [hjson]
      dsimp only
      rw [Step.token, Pointer.place_integerText (readable n List.mem_cons_self)]
      dsimp only
      rw [Int.toNat_natCast] at h
      rw [h]
    · cases h
  · cases h

/-- The walk along the tokens of a path ends at the node that stands there. -/
theorem walk?_tokens {node : Node} {path : Path} {json : Json}
    (reach : node.json.at? path = some json) (readable : path.IsReadable) :
    node.walk? (path.map Step.token) = .ok (some (node.under path json)) := by
  induction path generalizing node with
  | nil =>
    cases Option.some.inj reach
    rw [under_nil]
    rfl
  | cons step rest ih =>
    obtain ⟨child, hchild, hrest⟩ := Option.bind_eq_some_iff.mp reach
    have hstep := step_token hchild fun i hi =>
      readable i (by rw [List.mem_singleton.mp hi]; exact List.mem_cons_self)
    rw [List.map_cons, walk?, hstep]
    dsimp only
    rw [@ih (node.below step child) hrest fun i hi =>
      readable i (List.mem_cons_of_mem step hi), under_cons]

end Node

/-- A name of the table comes before what the fragment leads to. -/
theorem lookUp?_fragment_of_name {table : Definitions} {path : Path} {name : String} {node : Node}
    (unbound : table.lookup path.fragment = none)
    (spells : path.map Step.token = ["definitions", name])
    (bound : table.lookup name = some node) (root : Option Node) :
    lookUp? (.str path.fragment) table root = .ok (some node) := by
  unfold lookUp?
  dsimp only
  rw [unbound, path.toList_fragment]
  simp only [path.tokens?_fragment, spells, Pointer.definitionName?, Option.bind_some, bound]

theorem lookUp?_fragment_of_reach {table : Definitions} {path : Path} {root : Node} {json : Json}
    (unbound : table.lookup path.fragment = none)
    (nameless : ∀ name, path.map Step.token = ["definitions", name] → table.lookup name = none)
    (reach : root.json.at? path = some json) (readable : path.IsReadable) :
    lookUp? (.str path.fragment) table (some root) = .ok (some (root.under path json)) := by
  have hname : ((Pointer.definitionName? (path.map Step.token)).bind fun name =>
      table.lookup name) = none := by
    unfold Pointer.definitionName?
    split
    · rename_i name hspells
      exact nameless name hspells
    · rfl
  unfold lookUp?
  dsimp only
  rw [unbound, path.toList_fragment]
  simp only [path.tokens?_fragment, hname, Node.walk?_tokens reach readable]

theorem lookUp?_name {table : Definitions} {name : String} {node : Node}
    (bound : table.lookup name = some node) (root : Option Node) :
    lookUp? (.str name) table root = .ok (some node) := by
  unfold lookUp?
  dsimp only
  rw [bound]

theorem Path.fragment_definition (name : String) :
    fragment [.key "definitions", .key name] =
      "#/definitions/" ++ String.ofList (Text.escapePercent (escapeToken name)) := by
  rw [← String.toList_inj]
  simp [fragment, Step.token, escapeToken, Text.escapePercent]

/-- A fragment that is no name itself resolves to the node at its path, unless its tokens are
those of a name of the table: then it resolves to that name's schema, as the name does. A token
does not tell whether the step that it was made from is a key or an index. -/
theorem resolve?_fragment {table : Definitions} {path : Path} {root : Node} {json : Json}
    (reach : root.json.at? path = some json) (present : json ≠ .null)
    (readable : path.IsReadable) (unbound : table.lookup path.fragment = none) :
    (∀ name node, path.map Step.token = ["definitions", name] → table.lookup name = some node →
      resolve? (.str path.fragment) table (some root) = .ok ((some node).filter (!·.isNull))) ∧
    ((∀ name, path.map Step.token = ["definitions", name] → table.lookup name = none) →
      resolve? (.str path.fragment) table (some root) = .ok (some (root.under path json))) ∧
    ∀ name, (table.lookup name).isSome →
      let reference := "#/definitions/" ++
        String.ofList (Text.escapePercent (Path.escapeToken name))
      table.lookup reference = none →
      ∀ root, resolve? (.str reference) table root = resolve? (.str name) table root := by
  refine ⟨fun name node spells bound => ?_, fun nameless => ?_, fun name hname => ?_⟩
  · rw [resolve?, lookUp?_fragment_of_name unbound spells bound]
    rfl
  · have hpresent : (root.under path json).isNull = false := by
      cases json with
      | null => exact absurd rfl present
      | _ => rfl
    rw [resolve?, lookUp?_fragment_of_reach unbound nameless reach readable]
    simp [Except.map, hpresent]
  · intro reference unbound root
    obtain ⟨node, bound⟩ := Option.isSome_iff_exists.mp hname
    have hreference : reference = Path.fragment [.key "definitions", .key name] :=
      (Path.fragment_definition name).symm
    rw [hreference] at unbound ⊢
    rw [resolve?, resolve?, lookUp?_fragment_of_name unbound rfl bound, lookUp?_name bound]

/-- Keys with the characters that are escaped, with what looks like an escape, that look like an
index, that are empty, or that are no ASCII, and an index. -/
theorem resolve?_fragment_escapes :
    let path : Path := [.key "~01", .key "a/b%2F", .key "", .key "é", .index 1, .key "0"]
    let root := Node.document .schema (.obj [("~01", .obj [("a/b%2F", .obj [("",
      .obj [("é", .arr [.null, .obj [("0", .bool true)]])])])])])
    let table : Definitions := [("%7E", .document .options (.obj []))]
    path.fragment = "#/~001/a~1b%252F//é/1/0" ∧
    resolve? (.str path.fragment) table (some root) = .ok (some (root.under path (.bool true))) ∧
    ∀ root, resolve? (.str "#/definitions/%257E") table root =
      resolve? (.str "%7E") table root := by
  intro path root table
  have readable : path.IsReadable := by
    intro i hi
    have hone : i = 1 := by simpa [path] using hi
    rw [hone]
    exact Nat.one_lt_pow (by decide) (by decide)
  have reach : root.json.at? path = some (.bool true) := by rfl
  have unbound : table.lookup path.fragment = none := by rfl
  obtain ⟨_, hreach, hname⟩ := resolve?_fragment reach (by simp) readable unbound
  exact ⟨by rfl, hreach fun name h => by simp [path] at h, hname "%7E" rfl rfl⟩

/-- An index is taken for the name that its decimal text is. -/
theorem resolve?_fragment_index :
    let path : Path := [.key "definitions", .index 0]
    let root := Node.document .schema (.obj [("definitions", .arr [.obj []])])
    let table : Definitions := [("0", .document .options (.obj [("type", .str "string")]))]
    root.json.at? path = some (.obj []) ∧ table.lookup path.fragment = none ∧
      (∀ name, path ≠ [.key "definitions", .key name]) ∧
      resolve? (.str path.fragment) table (some root) ≠
        .ok (some (root.under path (.obj []))) := by
  intro path root table
  refine ⟨by rfl, by rfl, fun name h => by simp [path] at h, fun h => ?_⟩
  have spells : path.map Step.token = ["definitions", "0"] := by rfl
  rw [resolve?, lookUp?_fragment_of_name (by rfl) spells (by rfl)] at h
  cases h

end JsonSchema
