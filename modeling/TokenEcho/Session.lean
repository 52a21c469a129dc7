import TokenEcho.Diagnostic.Excerpt
import TokenEcho.Manifest.Lookup
import TokenEcho.Remark
import TokenEcho.Source.Console
import TokenEcho.Token.Echo
import TokenEcho.Token.Json
import TokenEcho.Token.Lexer

/-!
# Sessions

A session merges its options with the manifest, greets, reads a source, reports what is wrong with
it and writes its tokens. The manifest comes first: if it is bad, nothing is read or written. An
option adds to what the manifest asks for and takes nothing back.
-/

namespace TokenEcho

structure Options where
  banner : List String := []
  input? : Option Path := none
  strict : Bool := false
  json : Bool := false
  noBanner : Bool := false
  verbose : Bool := false
  manifestDirectory? : Option Path := none
deriving DecidableEq, Inhabited

/-- Options and manifest taken together. -/
structure Settings where
  strict : Bool
  banner : Bool
  format : OutputFormat
deriving DecidableEq, Inhabited

/-- How a session ends that has written all tokens: well, or with errors in a strict run. -/
inductive Outcome where
  | success
  | failed
deriving DecidableEq, Inhabited

def Outcome.exitCode : Outcome → Nat
  | success => 0
  | failed => 1

/-- What ends a session before all tokens are written. A working directory that cannot be told is
reported like a stream that fails. -/
inductive SessionError where
  | manifest (cause : ManifestError)
  | source (path : String) (cause : IoError)
  | stream (cause : IoError)
deriving DecidableEq, Inhabited

def SessionError.message : SessionError → String
  | manifest cause => cause.message
  | source path cause => "could not read '" ++ path ++ "': " ++ cause.message
  | stream cause => "io error: " ++ cause.message

/-- What a session reads, what it writes, and what it says beside it. Only the output can run full.
The remarks are a list that takes them all: a session that fails to show a remark is left out. -/
structure Streams where
  input : List UInt8 := []
  output : Sink := {}
  remarks : List Remark := []
deriving DecidableEq, Inhabited

abbrev Session := ExceptT SessionError (StateM Streams)

namespace Session

def run {α : Type} (s : Session α) (streams : Streams) : Except SessionError α × Streams :=
  (ExceptT.run s).run streams

/-- Writes to the output, and stops if it is full. -/
def emit (write : Sink → Bool × Sink) : Session Unit := do
  let streams ← get
  let (fits, output) := write streams.output
  set { streams with output }
  if !fits then throw (.stream .full)

/-- Makes a remark. Here this never fails, though a place where remarks are shown may. -/
def remark (r : Remark) : Session Unit :=
  modify fun streams => { streams with remarks := streams.remarks ++ [r] }

def log (options : Options) (level : Level) (message : String) : Session Unit :=
  match (LogFilter.ofVerbose options.verbose).filter? level message with
  | none => pure ()
  | some r => remark r

end Session

namespace Settings

def ofOptions (options : Options) : Settings where
  strict := options.strict
  banner := !options.noBanner
  format := if options.json then .json else .text

def merge (options : Options) (m : Manifest) : Settings where
  strict := options.strict || m.lexer.strict
  banner := !options.noBanner && m.output.banner
  format := if options.json then .json else m.output.outputFormat

/-- The directory in which the search for the manifest of a source begins: that of the source
itself, links followed, or that of its name if there is no such source. -/
def searchStart (fs : FileSystem) (source : Path) : Path :=
  (((fs.canonical? source).getD source).parent?).getD ⟨"."⟩

/-- The manifest of a session: in the directory that is asked for; else for a source in a file the
nearest one, and for a typed source the one in the working directory. Only in the last case it
matters whether there is a working directory, and then nothing is looked for without one. -/
def manifest (fs : FileSystem) (options : Options) :
    Except IoError (Except ManifestError Manifest) :=
  match options.manifestDirectory?, options.input? with
  | some directory, _ => .ok (Manifest.loadFrom fs directory)
  | none, some source => .ok (Manifest.loadNearest fs (searchStart fs source))
  | none, none => fs.workingDirectory.map (Manifest.loadFrom fs)

/-- The settings of a session. Without a manifest they are those of the options. -/
def determine (fs : FileSystem) (options : Options) : Session Settings :=
  match manifest fs options with
  | .error cause => throw (.stream cause)
  | .ok (.ok m) => do
      let name := m.project.name?.getD "unnamed"
      Session.log options .debug
        ("loaded " ++ Manifest.fileName ++ " for '" ++ name ++ "' from " ++ m.directory.text)
      return merge options m
  | .ok (.error (.notFound directory)) => do
      Session.log options .debug
        ("no " ++ Manifest.fileName ++ " found from " ++ directory ++ ", using defaults")
      return ofOptions options
  | .ok (.error cause) => throw (.manifest cause)

end Settings

namespace Session

def greet (options : Options) (settings : Settings) : Session Unit :=
  if settings.banner then emit (·.writeAll (options.banner.map (· ++ "\n"))) else pure ()

/-- The source and its name: the file that is asked for, or what is typed. -/
def source (fs : FileSystem) (options : Options) : Session (String × String) :=
  match options.input? with
  | some path =>
      match fs.readText path with
      | .ok source => return (source, path.fileName?.getD "")
      | .error cause => throw (.source path.text cause)
  | none => do
      let streams ← get
      let (result, input) := Console.readTyped streams.input
      set { streams with input }
      match result with
      | .ok source => return (source, Lexer.consoleName)
      | .error cause => throw (.stream cause)

def writeTokens (settings : Settings) (tokens : List Token) : Session Unit :=
  match settings.format with
  | .text => emit (echo tokens)
  | .json => emit (·.write (tokensAsJson tokens ++ "\n"))

/-- What comes first: the manifest and the banner. -/
def opening (fs : FileSystem) (options : Options) : Session Settings := do
  let settings ← Settings.determine fs options
  greet options settings
  return settings

/-- What comes after the banner: the source, what is wrong with it, and its tokens. -/
def body (fs : FileSystem) (options : Options) (settings : Settings) : Session Outcome := do
  let (source, name) ← source fs options
  log options .debug ("read " ++ Nat.repr source.utf8ByteSize ++ " bytes from " ++ name)
  let (tokens, bag) := ((Lexer.ofSource source name).withStrict settings.strict).tokenize
  log options .debug ("scanned " ++ Nat.repr tokens.length ++ " tokens")
  bag.diagnostics.forM fun d => remark (.report (d.report source name true))
  writeTokens settings tokens
  if bag.hasError then
    log options .info (Nat.repr bag.diagnostics.length ++ " error(s) in " ++ name)
    return .failed
  else return .success

def ofOptions (fs : FileSystem) (options : Options) : Session Outcome := do
  let settings ← opening fs options
  body fs options settings

end Session

end TokenEcho
