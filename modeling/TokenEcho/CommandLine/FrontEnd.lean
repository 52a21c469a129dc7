import TokenEcho.CommandLine.Arguments

/-!
# Front ends

A front end is a program around a session: it has a name, texts that describe it, and a banner. It
shows its help or its version, refuses wrong arguments, or runs a session and reports how that
ended.
-/

namespace TokenEcho

/-- A program with a session inside. -/
structure FrontEnd where
  name : String
  summary : String
  description : String
  banner : List String

structure Ending where
  exitCode : Nat
  output : List UInt8
  errors : String
deriving DecidableEq, Inhabited

namespace FrontEnd

def versionNumber : String := "0.1.0"

def bannerHead : List String := ["MigScript", "Made by drimerdev (2024)"]

def bannerPicture : List String :=
  List.replicate 8 "@@@@@@@@@@@@@@@@@@@@@@@@@@@@@@@@@@@" ++
    ["@@@@@@@@@@@@@@@@@@@@@@@@@@@@@     @",
      "@@@@@@@@@@@@@@@@@@@@@@@@@@@@  @@@@@",
      "@@@@@@@@@@@@@@@@@@@@@@@@@@@@@   @@@",
      "@@@@@@@@@@@@@@@@@@@@@@@@@@@@@@@  @@",
      "@@@@@@@@@@@@@@@@@@@@@@@@@@@@    @@@",
      "@@@@@@@@@@@@@@@@@@@@@@@@@@@@@@@@@@@"]

/-- The front end with the long banner. -/
def console : FrontEnd where
  name := "migscript"
  summary := "MigScript front end: tokenizes console input and echoes the tokens"
  description := "\n".intercalate
    ["MigScript front end.",
      "",
      "Reads source lines from stdin until an empty line (or a file, when given)",
      "and prints one line per token.",
      "",
      "Examples:",
      "  migscript                    Type source, finish with an empty line",
      "  migscript hello.mig          Tokenize a file",
      "  migscript hello.mig --json   Print tokens as JSON",
      "  migscript --strict           Fail on unterminated strings"]
  banner := bannerHead ++ bannerPicture

/-- The front end with the short banner. -/
def terminal : FrontEnd where
  name := "migscript-terminal"
  summary := "MigScript terminal front end: short banner, same token echo"
  description := "\n".intercalate
    ["MigScript terminal.",
      "",
      "Same token echo as `migscript`, with a two-line banner."]
  banner := bannerHead

def all : List FrontEnd := [console, terminal]

def inputHelp : String :=
  "Source file to tokenize. Without it, lines are read from stdin up to the first empty line"

def flagHelp (long : Bool) : Flag → String
  | .strict => "Report unterminated strings as errors (exit status 1)"
  | .json => "Print the token stream as JSON"
  | .noBanner => "Do not print the startup banner"
  | .verbose => "Write [DEBUG] progress lines to stderr"
  | .help =>
      if long then "Print help (see a summary with '-h')" else "Print help (see more with '--help')"
  | .version => "Print version"

/-- A flag as the help lists it, with its letter in a column of its own. -/
def flagLabel (flag : Flag) : String :=
  (match flag.letter? with
  | some letter => String.ofList ['-', letter, ',', ' ']
  | none => "    ") ++ "--" ++ flag.name

def padded (text : String) (length : Nat) : String := text.pushn ' ' (length - text.length)

def shortItem (labelWidth : Nat) (label words : String) : String :=
  "  " ++ padded label labelWidth ++ "  " ++ words ++ "\n"

def longItem (label words : String) : String :=
  "  " ++ label ++ "\n" ++ "".pushn ' ' 10 ++ words ++ "\n"

def help (f : FrontEnd) (long : Bool) : String :=
  let labels := Flag.ofProgram.map flagLabel
  let labelWidth := labels.foldl (fun width label => max width label.length) 0
  let flagItem (flag : Flag) : String :=
    if long then longItem (flagLabel flag) (flagHelp long flag)
    else shortItem labelWidth (flagLabel flag) (flagHelp long flag)
  let inputItem := if long then longItem "[INPUT]" inputHelp else shortItem 0 "[INPUT]" inputHelp
  (if long then f.description else f.summary) ++ "\n\n" ++
    "Usage: " ++ f.name ++ " [OPTIONS] [INPUT]\n\n" ++
    "Arguments:\n" ++ inputItem ++ "\n" ++
    "Options:\n" ++ (if long then "\n" else "").intercalate (Flag.ofProgram.map flagItem)

/-- What a session has written, and the exit code for how it ended. -/
def endingOf (result : Except SessionError Outcome) (streams : Streams) : Ending :=
  let errors := Remark.renderAll streams.remarks
  match result with
  | .ok outcome => { exitCode := outcome.exitCode, output := streams.output.written, errors }
  | .error e =>
      { exitCode := 1, output := streams.output.written
        errors := errors ++ "error: " ++ e.message ++ "\n" }

/-- The end of a program that runs no session. -/
def stopped (f : FrontEnd) : EarlyStop → Ending
  | .help long => { exitCode := 0, output := Text.encode (f.help long), errors := "" }
  | .version =>
      let line := f.name ++ " " ++ versionNumber ++ "\n"
      { exitCode := 0, output := Text.encode line, errors := "" }
  | .wrong e => { exitCode := 2, output := [], errors := e.written ++ "\n" }

def run (f : FrontEnd) (arguments : List String) (fs : FileSystem) (input : List UInt8) : Ending :=
  match Arguments.parse Flag.ofProgram arguments with
  | .error stop => f.stopped stop
  | .ok a =>
      let (result, streams) := (Session.ofOptions fs (a.toOptions f.banner)).run { input }
      endingOf result streams

end FrontEnd

end TokenEcho
