import TokenEcho.Files.Path
import TokenEcho.IoError

/-!
# Manifests

A manifest says how the sources of a project are read and how their tokens are written. What it does
not say has a default.
-/

namespace TokenEcho

inductive OutputFormat where
  | text
  | json
deriving DecidableEq, Inhabited

namespace OutputFormat

def name : OutputFormat → String
  | text => "text"
  | json => "json"

def ofName? (text : String) : Option OutputFormat :=
  [OutputFormat.text, json].find? fun f => f.name == text

end OutputFormat

structure ProjectKeys where
  name? : Option String := none
deriving DecidableEq, Inhabited

structure LexerKeys where
  strict : Bool := false
deriving DecidableEq, Inhabited

/-- What a manifest says about the output. The format is kept as it was written. -/
structure OutputKeys where
  banner : Bool := true
  format : String := OutputFormat.text.name
deriving DecidableEq, Inhabited

/-- The format of a section; a name that is not known means text. -/
def OutputKeys.outputFormat (s : OutputKeys) : OutputFormat :=
  (OutputFormat.ofName? s.format).getD .text

structure Sections where
  project : ProjectKeys := {}
  lexer : LexerKeys := {}
  output : OutputKeys := {}
deriving DecidableEq, Inhabited

/-- A manifest and the directory it stands in. -/
structure Manifest extends Sections where
  directory : Path
deriving DecidableEq, Inhabited

namespace Manifest

def fileName : String := "MigScript.toml"

end Manifest

end TokenEcho
