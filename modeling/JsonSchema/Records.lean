import JsonSchema.Json.Reader
import JsonSchema.Text.Blank
import JsonSchema.Text.Split
import JsonSchema.Validate

/-! Validating the records of a file: one value, the elements of an array when the
schema does not ask for an array itself, or one value on each line. -/
namespace JsonSchema

/-- Files by name. -/
abbrev Files := List (String × ByteArray)

namespace Records

inductive Fault where
  | missing
  | encoding
  | schemaText
  | line (number : Nat) (file : String)
  /-- An integer has more digits than are read. -/
  | tooManyDigits (count : Nat)
  | validation (fault : JsonSchema.Fault)

/-- Every line ends in a line feed, whichever way it was written. -/
def unifyLineEnds : List Char → List Char
  | [] => []
  | '\r' :: '\n' :: rest => '\n' :: unifyLineEnds rest
  | '\r' :: rest => '\n' :: unifyLineEnds rest
  | c :: rest => c :: unifyLineEnds rest

def read (files : Files) (name : String) : Except Fault (List Char) :=
  match files.lookup name with
  | none => .error .missing
  | some bytes =>
    match String.fromUTF8? bytes with
    | none => .error .encoding
    | some text => .ok (unifyLineEnds text.toList)

def readSchema (files : Files) (name : String) : Except Fault Json := do
  match Json.ofText (String.ofList (← read files name)) with
  | .ok schema => return schema
  | .error .malformed => throw .schemaText
  | .error (.tooManyDigits count) => throw (.tooManyDigits count)

/-- Whether a schema is about an array as a whole. -/
def expectsArray (schema : Json) : Bool :=
  match schema with
  | .obj members =>
    match members.lookup "type" with
    | some (.str type) => type == "array"
    | some _ => false
    | none => Members.has members "items"
  | _ => false

/-- One value on each line that is not blank, numbered from a given line on. -/
def ofLines (file : String) : Nat → List (List Char) → Except Fault (List (String × Json))
  | _, [] => .ok []
  | number, line :: rest =>
    let line := Text.strip line
    if line.isEmpty then ofLines file (number + 1) rest
    else
      match Json.ofText (String.ofList line) with
      | .error .malformed => .error (.line number file)
      | .error (.tooManyDigits count) => .error (.tooManyDigits count)
      | .ok value =>
        (ofLines file (number + 1) rest).map ((file ++ ":" ++ integerText number, value) :: ·)

def elements (file : String) (items : List Json) : List (String × Json) :=
  items.zipIdx.map fun (item, i) => (file ++ "[" ++ integerText i ++ "]", item)

/-- The records of a file with their labels. Blanks around the content are dropped
before lines are counted. -/
def ofContent (file : String) (content : List Char) (schema : Json) :
    Except Fault (List (String × Json)) :=
  let content := Text.strip content
  match Json.ofText (String.ofList content) with
  | .error .malformed => ofLines file 1 (Text.split '\n' content)
  | .error (.tooManyDigits count) => .error (.tooManyDigits count)
  | .ok (.arr items) =>
    .ok (if expectsArray schema then [(file, .arr items)] else elements file items)
  | .ok value => .ok [(file, value)]

abbrev Run := ExceptT Fault (StateM (List Notice))

def validateAll (schema : Json) (given : Given) : List (String × Json) → Run (List Report)
  | [] => return []
  | (label, value) :: rest => do
    let report ← ExceptT.adapt Fault.validation (validateInstance schema value given label)
    return report :: (← validateAll schema given rest)

end Records

/-- A report for each record of a file. -/
def validateFile (files : Files) (file schemaFile : String) (given : Given) :
    Records.Run (List Report) := do
  let schema ← Records.readSchema files schemaFile
  let records ← Records.ofContent file (← Records.read files file) schema
  Records.validateAll schema given records

/-- How many records of several files are valid, and how many are not. -/
def countFiles (files : Files) (schemaFile : String) (given : Given) :
    List String → Records.Run (Nat × Nat)
  | [] => return (0, 0)
  | file :: rest => do
    let reports ← validateFile files file schemaFile given
    let valid := reports.countP Report.isValid
    let (others, invalid) ← countFiles files schemaFile given rest
    return (valid + others, reports.length - valid + invalid)

end JsonSchema
