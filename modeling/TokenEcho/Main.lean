import TokenEcho.CommandLine.FrontEnd

/-!
# The program

Looks at the files that a session may ask for, and runs the session on what it found. The banner is
written before a typed source is read.
-/

namespace TokenEcho.Program

/-- The number of a failure, which may come with a minus sign in 32 bits. -/
def numberOf (n : UInt32) : Nat := min n.toNat (UInt32.size - n.toNat)

def failureOf : IO.Error → Nat × String
  | .alreadyExists _ n words | .inappropriateType _ n words | .invalidArgument _ n words
  | .noFileOrDirectory _ n words | .noSuchThing _ n words | .permissionDenied _ n words
  | .resourceExhausted _ n words | .interrupted _ n words | .otherError n words
  | .resourceBusy n words | .resourceVanished n words | .unsupportedOperation n words
  | .hardwareFault n words | .unsatisfiedConstraints n words | .illegalOperation n words
  | .protocolError n words | .timeExpired n words => (numberOf n, words)
  | .unexpectedEof => (0, "")
  | .userError words => (0, words)

/-- The answer of this system to a question, or why there is none. -/
def answerOf {α : Type} (question : IO α) : IO (Except IoError α) := do
  try
    return .ok (← question)
  catch e =>
    let (number, words) := failureOf e
    return .error (.ofSystem words number)

/-- What a path leads to on this system. A file that may not be read is a file all the same, but not
one whose path is too long to ask for it. -/
def lookAt (p : Path) : IO (Except IoError Found) := do
  let content ← answerOf do return (← IO.FS.readBinFile p.text).toList
  let type ← answerOf do return (← (← IO.FS.realPath p.text).metadata).type
  return match content, type with
  | .error .isDirectory, _ => .ok .directory
  | .error .nameTooLong, _ => .error .nameTooLong
  | _, .ok .file => .ok (.file content)
  | .ok bytes, _ => .ok (.device bytes)
  | .error cause, _ => .error cause

def canonical (p : Path) : IO (Except IoError Path) :=
  answerOf do return ⟨(← IO.FS.realPath p.text).toString⟩

/-- Where the program stands, which a system knows by its canonical name. -/
def workingDirectory : IO (Except IoError Path) := canonical ⟨"."⟩

/-- The answers of this system to what a session asks for its options. Where the program stands is
asked for only if the session does. -/
def snapshot (options : Options) : IO FileSystem := do
  let canonical? ← match options.input? with
    | none => pure none
    | some input => pure (← canonical input).toOption
  let bare : FileSystem :=
    { workingDirectory := .error .notFound
      look := fun _ => .error .notFound
      canonical? := fun _ => canonical? }
  let (fs, starts) ← match options.manifestDirectory?, options.input? with
    | some directory, _ => pure (bare, [directory])
    | none, some input => pure (bare, (Settings.searchStart bare input).ancestors)
    | none, none => do
        let stands ← workingDirectory
        pure ({ bare with workingDirectory := stands }, stands.toOption.toList)
  let paths := options.input?.toList ++ starts.map (·.join Manifest.fileName)
  let found ← paths.mapM fun p => return (p, ← lookAt p)
  return { fs with look := fun p => (found.lookup p).getD (.error .notFound) }

partial def typedLines (input : IO.FS.Stream) (before : List UInt8) : IO (List UInt8) := do
  let line ← input.getLine
  let bytes := before ++ Text.encode line
  if (Console.lineContent line).isEmpty then return bytes else typedLines input bytes

def leave (e : Ending) : IO UInt32 := do
  let output ← IO.getStdout
  output.write e.output.toByteArray
  output.flush
  (← IO.getStderr).putStr e.errors
  return e.exitCode.toUInt32

/-- Runs the front end that bears the name of this program. -/
def run (arguments : List String) : IO UInt32 := do
  let name := (Path.mk (← IO.appPath).toString).fileName?.getD ""
  let frontEnd := (FrontEnd.all.find? (·.name == name)).getD FrontEnd.console
  match Arguments.parse Flag.ofProgram arguments with
  | .error stop => leave (frontEnd.stopped stop)
  | .ok accepted =>
      let options := accepted.toOptions frontEnd.banner
      let fs ← snapshot options
      let (opened, streams) := (Session.opening fs options).run {}
      match opened with
      | .error e => leave (FrontEnd.endingOf (.error e) streams)
      | .ok settings =>
          discard (leave (FrontEnd.endingOf (.ok .success) streams))
          let input ← if options.input?.isNone then typedLines (← IO.getStdin) [] else pure []
          let (result, streams) := (Session.body fs options settings).run { input }
          leave (FrontEnd.endingOf result streams)

end TokenEcho.Program

def main (arguments : List String) : IO UInt32 := TokenEcho.Program.run arguments
