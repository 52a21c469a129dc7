import TokenEcho.Decimal.Shortest
import TokenEcho.Manifest
import TokenEcho.Text.Quoted
import TokenEcho.Text.Utf8
import TokenEcho.Toml.Document

/-!
# From a document to a manifest

Three tables of the document matter, and a few keys in them. They are decoded in the order of the
document, and the first value of a wrong type is reported with its place. A section may also be an
array, whose items are its fields in order, or a date, which has no fields.
-/

namespace TokenEcho

/-- A value of a wrong type: where it stands, what it is, and what would be right. -/
structure Mismatch where
  range : Toml.ByteRange
  found : String
  expected : String
deriving DecidableEq, Inhabited

inductive ManifestError where
  | notFound (directory : String)
  | unreadable (cause : IoError)
  | malformed
  | mismatch (source : String) (m : Mismatch)
  | unknownFormat (name : String)
deriving DecidableEq, Inhabited

/-- What a message calls a value. -/
def Toml.Value.description : Toml.Value → String
  | .string text => "string " ++ Text.quoted text
  | .integer n => "integer `" ++ toString n ++ "`"
  | .float x => "floating point `" ++ x.text ++ "`"
  | .boolean b => "boolean `" ++ (if b then "true" else "false") ++ "`"
  | .moment => "map"
  | .array _ => "sequence"
  | .table _ => "map"

namespace Mismatch

/-- The report of a wrong type: the line of the document with the value underlined, and the words.
The underline has a mark for each byte of the value that stands on the line. -/
def message (source : String) (m : Mismatch) : String :=
  let (before, after) :=
    (Text.splitAtByte? m.range.start source.toList).getD (source.toList, [])
  let lineStart := (before.reverse.takeWhile (· != '\n')).reverse
  let line := lineStart ++ after.takeWhile (· != '\n')
  let number := Nat.repr (before.count '\n' + 1)
  let marks :=
    max 1 (min (m.range.stop - m.range.start) (Text.byteLength line - lineStart.length))
  let margin := "".pushn ' ' (number.length + 1) ++ "|"
  "TOML parse error at line " ++ number ++ ", column " ++ Nat.repr (lineStart.length + 1) ++ "\n" ++
    margin ++ "\n" ++
    number ++ " | " ++ String.ofList line ++ "\n" ++
    margin ++ "".pushn ' ' (lineStart.length + 1) ++ "".pushn '^' marks ++ "\n" ++
    "invalid type: " ++ m.found ++ ", expected " ++ m.expected ++ "\n"

end Mismatch

def ManifestError.message : ManifestError → String
  | notFound directory => "no MigScript.toml found (searched from " ++ directory ++ ")"
  | unreadable cause => "failed to read MigScript.toml: " ++ cause.message
  | malformed => "invalid MigScript.toml: TOML parse error"
  | mismatch source m => "invalid MigScript.toml: " ++ m.message source
  | unknownFormat name =>
      "invalid MigScript.toml: [output] unknown format '" ++ name ++
        "' (expected 'text' or 'json')"

namespace Manifest

/-- A value that has to be of one type. -/
def expecting {α : Type} (expected : String) (pick : Toml.Value → Option α)
    (item : Toml.ByteRange × Toml.Value) : Except Mismatch α :=
  match pick item.2 with
  | some x => .ok x
  | none => .error { range := item.1, found := item.2.description, expected }

def asBoolean : Toml.ByteRange × Toml.Value → Except Mismatch Bool :=
  expecting "a boolean" fun
    | .boolean b => some b
    | _ => none

def asString : Toml.ByteRange × Toml.Value → Except Mismatch String :=
  expecting "a string" fun
    | .string text => some text
    | _ => none

/-- The fields that a table may have: their names, and how the value of each is taken in. -/
abbrev Fields (α : Type) := List (String × (α → Toml.ByteRange × Toml.Value → Except Mismatch α))

/-- Takes in the entries of a table whose names are known. -/
def takeEntries {α : Type} (fields : Fields α) (start : α) (entries : List Toml.Entry) :
    Except Mismatch α :=
  entries.foldlM (fun x (key, item) =>
    match fields.lookup key with
    | some field => field x item
    | none => .ok x) start

def asSection {α : Type} (expected : String) (fields : Fields α) (start : α)
    (item : Toml.ByteRange × Toml.Value) : Except Mismatch α :=
  match item.2 with
  | .table entries => takeEntries fields start entries
  | .array items => (fields.zip items).foldlM (fun x (field, item) => field.2 x item) start
  | .moment => .ok start
  | v => .error { range := item.1, found := v.description, expected }

def projectFields : Fields ProjectKeys :=
  [("name", fun s item => return { s with name? := some (← asString item) })]

def lexerFields : Fields LexerKeys :=
  [("strict", fun s item => return { s with strict := ← asBoolean item })]

def outputFields : Fields OutputKeys :=
  [("banner", fun s item => return { s with banner := ← asBoolean item }),
    ("format", fun s item => return { s with format := ← asString item })]

def sectionFields : Fields Sections :=
  [("project", fun s item =>
      return { s with project := ← asSection "struct ProjectSection" projectFields {} item }),
    ("lexer", fun s item =>
      return { s with lexer := ← asSection "struct LexerSection" lexerFields {} item }),
    ("output", fun s item =>
      return { s with output := ← asSection "struct OutputSection" outputFields {} item })]

/-- The sections of a document that was read from a text. The format has to have a known name. -/
def ofEntries (source : String) (entries : List Toml.Entry) (directory : Path) :
    Except ManifestError Manifest :=
  match takeEntries sectionFields {} entries with
  | .error m => .error (.mismatch source m)
  | .ok sections =>
      match OutputFormat.ofName? sections.output.format with
      | none => .error (.unknownFormat sections.output.format)
      | some _ => .ok { sections with directory }

def ofText (source : String) (directory : Path) : Except ManifestError Manifest :=
  match Toml.parse? source with
  | none => .error .malformed
  | some entries => ofEntries source entries directory

end Manifest

end TokenEcho
