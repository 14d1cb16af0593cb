import Mathlib
import JsonSchema.Proofs.Lines
import JsonSchema.Proofs.Run
import JsonSchema.Proofs.Sequence

/-! What a file is taken for: one value, the elements of an array, or one value on each line
that is not blank. -/
namespace JsonSchema

namespace Records

/-- The records of a file with their labels. -/
def load (files : Files) (file : String) (schema : Json) : Except Fault (List (String × Json)) := do
  ofContent file (← read files file) schema

/-- A text that writes one value as a whole. -/
def document (content : List Char) : Except Json.TextFlaw Json :=
  Json.ofText (String.ofList (Text.strip content))

theorem load_of_text {files : Files} {file : String} {bytes : ByteArray} {text : String}
    (stored : files.lookup file = some bytes) (decoded : String.fromUTF8? bytes = some text)
    (schema : Json) :
    load files file schema = ofContent file (unifyLineEnds text.toList) schema := by
  have hread : read files file = .ok (unifyLineEnds text.toList) := by
    rw [read, stored]
    dsimp only
    rw [decoded]
  simp only [load, hread, bind, Except.bind]

/-- The value that a text writes, with the label of its line. -/
def ofRecord (file : String) (record : Nat × List Char) : Except Fault (String × Json) :=
  match Json.ofText (String.ofList record.2) with
  | .error .malformed => .error (.line record.1 file)
  | .error (.tooManyDigits count) => .error (.tooManyDigits count)
  | .ok value => .ok (file ++ ":" ++ integerText record.1, value)

theorem ofRecord_eq_ok_iff (file : String) (record : Nat × List Char) (loaded : String × Json) :
    ofRecord file record = .ok loaded ↔
      Json.ofText (String.ofList record.2) = .ok loaded.2 ∧
        loaded.1 = file ++ ":" ++ integerText record.1 := by
  unfold ofRecord
  cases Json.ofText (String.ofList record.2) with
  | error flaw => cases flaw <;> simp
  | ok found => simp [Prod.ext_iff, and_comm, eq_comm]

theorem ofLines_eq_mapM (file : String) (n : Nat) (ls : List (List Char)) :
    ofLines file n ls = (Text.numbered n ls).mapM (ofRecord file) := by
  induction ls generalizing n with
  | nil => rfl
  | cons line rest ih =>
    rw [ofLines, Text.numbered, Text.isEmpty_strip]
    cases Text.isBlankLine line with
    | true => exact ih (n + 1)
    | false =>
      simp only [Bool.false_eq_true, if_false, ih]
      cases hread : Json.ofText (String.ofList (Text.strip line)) with
      | error flaw =>
        cases flaw <;> exact (mapM_cons_error (by rw [ofRecord, hread]) _).symm
      | ok value => exact (mapM_cons_ok (by rw [ofRecord, hread]) _).symm

/-- A file that is no document is read line by line. Its lines are numbered from the first one
that is not blank. -/
theorem load_eq_mapM {files : Files} {file : String} {bytes : ByteArray} {text : String}
    (stored : files.lookup file = some bytes) (decoded : String.fromUTF8? bytes = some text)
    (several : document (unifyLineEnds text.toList) = .error .malformed) (schema : Json) :
    load files file schema =
      ((Text.numbered 1 (Text.lines text.toList)).map fun record =>
        (record.1 - Text.leadingBlankLines (Text.lines text.toList), record.2)).mapM
          (ofRecord file) := by
  have hstripped := Text.numbered_split_strip 1 (unifyLineEnds text.toList)
  rw [Text.split_unifyLineEnds] at hstripped
  rw [document] at several
  rw [load_of_text stored decoded, ofContent]
  simp only [several]
  rw [ofLines_eq_mapM, hstripped, List.map_map]
  refine congrArg _ ?_
  simp [Function.comp_def]

/-- A file that is no document has the values on its lines that are not blank, none of them
lost, and otherwise fails at the first such line that writes no value. The labels and the fault
number the lines from the first one that is not blank. -/
theorem load_numbers_from_first_record {files : Files} {file : String} {bytes : ByteArray}
    {text : String} (stored : files.lookup file = some bytes)
    (decoded : String.fromUTF8? bytes = some text)
    (several : document (unifyLineEnds text.toList) = .error .malformed) (schema : Json) :
    let lines := Text.lines text.toList
    let records := Text.numbered 1 lines
    (∀ loaded, load files file schema = .ok loaded ↔
      List.Forall₂ (fun record (labelled : String × Json) =>
        Json.ofText (String.ofList record.2) = .ok labelled.2 ∧
          labelled.1 = file ++ ":" ++ integerText (record.1 - Text.leadingBlankLines lines : Nat))
        records loaded) ∧
    ∀ before record after, records = before ++ record :: after →
      (∀ earlier ∈ before, ∃ value, Json.ofText (String.ofList earlier.2) = .ok value) →
      (Json.ofText (String.ofList record.2) = .error .malformed →
        load files file schema = .error (.line (record.1 - Text.leadingBlankLines lines) file)) ∧
      ∀ count, Json.ofText (String.ofList record.2) = .error (.tooManyDigits count) →
        load files file schema = .error (.tooManyDigits count) := by
  intro lines records
  rw [load_eq_mapM stored decoded several]
  refine ⟨fun loaded => ?_, fun before record after hrecords hbefore => ?_⟩
  · rw [mapM_eq_ok_iff, List.forall₂_map_left_iff]
    simp only [ofRecord_eq_ok_iff, records, lines]
  · have hfirst {fault : Fault} (bad : ofRecord file
        (record.1 - Text.leadingBlankLines lines, record.2) = .error fault) :
        (records.map fun record => (record.1 - Text.leadingBlankLines lines, record.2)).mapM
          (ofRecord file) = .error fault := by
      rw [hrecords, List.map_append, List.map_cons]
      refine mapM_of_first_error (fun earlier hearlier => ?_) bad
      obtain ⟨found, hfound, rfl⟩ := List.mem_map.mp hearlier
      obtain ⟨value, hvalue⟩ := hbefore found hfound
      exact ⟨(_, value), (ofRecord_eq_ok_iff _ _ _).mpr ⟨hvalue, rfl⟩⟩
    refine ⟨fun hread => hfirst ?_, fun count hread => hfirst ?_⟩
    · rw [ofRecord, hread]
    · rw [ofRecord, hread]

/-- Values on the lines 1 and 4, then a line 5 that writes none. -/
def scattered : String := "7\r\n \r\r\n\t[]\n\x7b\n"

theorem load_numbers_from_first_record_scattered :
    Text.numbered 1 (Text.lines scattered.toList) = [(1, ['7']), (4, ['[', ']']), (5, ['\x7b'])] ∧
      load [("log", scattered.toUTF8)] "log" .null = .error (.line 5 "log") := by
  have hread := @load_numbers_from_first_record [("log", scattered.toUTF8)] "log"
    scattered.toUTF8 scattered rfl (by rfl) (by rfl) .null
  refine ⟨rfl, (hread.2 [(1, ['7']), (4, ['[', ']'])] (5, ['\x7b']) [] rfl ?_).1 rfl⟩
  intro earlier hearlier
  rcases List.mem_pair.mp hearlier with rfl | rfl
  · exact ⟨.int 7, rfl⟩
  · exact ⟨.arr [], rfl⟩

/-- Values on the lines 2 and 3 of a file are labelled with the numbers 1 and 2. -/
theorem leading_blank_line_shifts_labels :
    document (unifyLineEnds "\n1\n2".toList) = .error .malformed ∧
      Text.numbered 1 (Text.lines "\n1\n2".toList) = [(2, ['1']), (3, ['2'])] ∧
      load [("log", "\n1\n2".toUTF8)] "log" (.obj []) =
        .ok [("log:1", .int 1), ("log:2", .int 2)] :=
  ⟨rfl, rfl, rfl⟩

/-- A schema is taken to be about an array as a whole if its type is that of arrays, declared or
told by its shape; and without a declared type also if it describes properties besides items,
when its shape tells that it is about an object. -/
theorem expectsArray_iff (members : Members) :
    expectsArray (.obj members) = true ↔
      inferredType? members = some (.str "array") ∨
        members.lookup "type" = none ∧ Members.has members "properties" ∧
          Members.has members "items" := by
  unfold expectsArray inferredType?
  cases htype : members.lookup "type" with
  | some type => cases type <;> simp [htype]
  | none =>
    cases hproperties : Members.has members "properties" <;>
      cases hitems : Members.has members "items" <;> simp [htype, hitems]

theorem validateAll_eq_mapM (schema : Json) (given : Given) (records : List (String × Json)) :
    validateAll schema given records = records.mapM fun (label, value) =>
      ExceptT.adapt Fault.validation (validateInstance schema value given label) := by
  induction records with
  | nil => rfl
  | cons record rest ih => rw [validateAll, ih, List.mapM_cons]

theorem elements_mapM {α : Type} (file : String) (items : List Json) (f : String × Json → Run α) :
    (elements file items).mapM f =
      items.zipIdx.mapM fun (item, i) => f (file ++ "[" ++ integerText i ++ "]", item) := by
  rw [elements, List.mapM_map]
  rfl

theorem run_lift_ok {α β : Type} (a : α) (next : α → Run β) :
    (liftM (Except.ok a : Except Fault α) : Run α) >>= next = next a := rfl

end Records

open Records

/-- What a file with one document amounts to: its elements, one by one, where it is an array and
the schema is not about arrays; and otherwise the whole. A schema without a declared type that
describes properties and items is about an object, and yet gets an array as a whole. -/
theorem validateFile_document {files : Files} {file schemaFile : String} {content : List Char}
    {members : Members} {value : Json} (given : Given)
    (schema : readSchema files schemaFile = .ok (.obj members))
    (stored : read files file = .ok content) (single : document content = .ok value) :
    let ambiguous := members.lookup "type" = none ∧ Members.has members "properties" ∧
      Members.has members "items"
    (∀ items, value = .arr items → inferredType? members ≠ some (.str "array") → ¬ ambiguous →
      validateFile files file schemaFile given = items.zipIdx.mapM fun (item, i) =>
        ExceptT.adapt Fault.validation
          (validateInstance (.obj members) item given (file ++ "[" ++ integerText i ++ "]"))) ∧
    (value.isArray = false ∨ inferredType? members = some (.str "array") ∨ ambiguous →
      validateFile files file schemaFile given =
        (fun report => [report]) <$> ExceptT.adapt Fault.validation
          (validateInstance (.obj members) value given file)) := by
  intro ambiguous
  have hrun {records : List (String × Json)}
      (h : ofContent file content (.obj members) = .ok records) :
      validateFile files file schemaFile given = validateAll (.obj members) given records := by
    rw [validateFile, schema, run_lift_ok, stored, run_lift_ok, h, run_lift_ok]
  rw [document] at single
  refine ⟨fun items hitems hinferred hshape => ?_, fun hwhole => ?_⟩
  · subst hitems
    have helements : expectsArray (.obj members) = false := by
      rw [Bool.eq_false_iff, Ne, expectsArray_iff]
      exact not_or_intro hinferred hshape
    rw [hrun, validateAll_eq_mapM, elements_mapM]
    rw [ofContent]
    simp only [single, helements, Bool.false_eq_true, if_false]
  · have hrecord : ofContent file content (.obj members) = .ok [(file, value)] := by
      rw [ofContent]
      cases value with
      | arr items =>
        have harray : expectsArray (.obj members) = true :=
          (expectsArray_iff members).mpr (hwhole.resolve_left nofun)
        simp only [single, harray, if_true]
      | _ => simp only [single]
    rw [hrun hrecord, validateAll_eq_mapM, List.mapM_cons, List.mapM_nil]
    rfl

/-- A schema for lists of at most one item, a schema for numbers, and an array. -/
def Records.sampleFiles : Files := [
  ("list", "\x7b\"items\": \x7b\"type\": \"integer\"\x7d, \"maxItems\": 1\x7d".toUTF8),
  ("number", "\x7b\"type\": \"number\"\x7d".toUTF8),
  ("data", "\r\n [1, null]\r\n".toUTF8)]

theorem validateFile_document_sample :
    (validateFile sampleFiles "data" "number" .absent = [(Json.int 1, 0), (.null, 1)].mapM
      fun (item, i) => ExceptT.adapt Fault.validation
        (validateInstance (.obj [("type", .str "number")]) item .absent
          ("data" ++ "[" ++ integerText (i : Nat) ++ "]"))) ∧
    validateFile sampleFiles "data" "list" .absent = (fun report => [report]) <$>
      ExceptT.adapt Fault.validation
        (validateInstance
          (.obj [("items", .obj [("type", .str "integer")]), ("maxItems", .int 1)])
          (.arr [.int 1, .null]) .absent "data") := by
  have hread : Records.read sampleFiles "data" = .ok "\n [1, null]\n".toList := by cbv
  have hdocument : document "\n [1, null]\n".toList = .ok (.arr [.int 1, .null]) := by cbv
  have hnumber : readSchema sampleFiles "number" = .ok (.obj [("type", .str "number")]) := by cbv
  have hlist : readSchema sampleFiles "list" =
      .ok (.obj [("items", .obj [("type", .str "integer")]), ("maxItems", .int 1)]) := by cbv
  refine ⟨?_, ?_⟩
  · exact (validateFile_document .absent hnumber hread hdocument).1 _ rfl (by simp [inferredType?])
      (by simp)
  · exact (validateFile_document .absent hlist hread hdocument).2 (.inr (.inl rfl))

/-- A schema without a type that describes properties and items is one for objects. The array of
objects in a file is checked against it as a whole nevertheless. -/
theorem array_of_objects_taken_whole :
    inferredType? [("properties", .obj []), ("items", .obj [])] = some (.str "object") ∧
      ((validateFile
        [("schema", "\x7b\"properties\": \x7b\x7d, \"items\": \x7b\x7d\x7d".toUTF8),
          ("data", "[\x7b\x7d]".toUTF8)]
        "data" "schema" .absent).run.run []).1.map (·.map fun report =>
          (report.label, report.isValid)) = .ok [("data", false)] ∧
      ((validateInstance (.obj [("properties", .obj []), ("items", .obj [])]) (.obj []) .absent
        "data[0]").on []).1.map (fun report => (report.label, report.isValid)) =
          .ok ("data[0]", true) := by
  refine ⟨rfl, ?_, rfl⟩
  cbv

end JsonSchema
