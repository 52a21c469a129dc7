import TokenEcho.Session
import TokenEcho.Text.ControlSequence

/-!
# Arguments of the command line

Arguments are read from left to right, and the first problem ends the reading; a request for help or
for the version does so too. Flags are given once at most. What does not start with a dash is the
input, and so is a lone dash and everything after two dashes. Whether the input is empty is only
looked at when the next flag is accepted, or at the end.
-/

namespace TokenEcho

inductive Flag where
  | strict
  | json
  | noBanner
  | verbose
  | help
  | version
deriving DecidableEq, Inhabited

namespace Flag

def name : Flag → String
  | strict => "strict"
  | json => "json"
  | noBanner => "no-banner"
  | verbose => "verbose"
  | help => "help"
  | version => "version"

def letter? : Flag → Option Char
  | verbose => some 'v'
  | help => some 'h'
  | version => some 'V'
  | _ => none

def ofSession : List Flag := [strict, json, noBanner, verbose, help]

def ofProgram : List Flag := ofSession ++ [version]

end Flag

inductive UsageError where
  | unknown (argument : String)
  | repeated (flag : Flag)
  | unexpectedValue (flag : Flag) (value : String)
  | emptyInput
deriving DecidableEq, Inhabited

namespace UsageError

/-- The words for wrong arguments, and what they repeat of an argument after it has been cleaned. -/
def words (clean : String → String) : UsageError → String
  | unknown argument => "error: unexpected argument '" ++ clean argument ++ "' found"
  | repeated flag =>
      "error: the argument '--" ++ flag.name ++ "' cannot be used multiple times"
  | unexpectedValue flag value =>
      "error: unexpected value '" ++ clean value ++ "' for '--" ++ flag.name ++
        "' found; no more were expected"
  | emptyInput => "error: a value is required for '[INPUT]' but none was supplied"

def message : UsageError → String := words Text.withoutControls

/-- The words for wrong arguments as a program writes them. -/
def written : UsageError → String := words Text.withoutStreamControls

end UsageError

inductive EarlyStop where
  | help (long : Bool)
  | version
  | wrong (e : UsageError)
deriving DecidableEq, Inhabited

structure Arguments where
  input? : Option String := none
  strict : Bool := false
  json : Bool := false
  noBanner : Bool := false
  verbose : Bool := false
deriving DecidableEq, Inhabited

namespace Arguments

/-- Refuses an input without a name. -/
def settle (a : Arguments) : Except EarlyStop Arguments :=
  if a.input? = some "" then .error (.wrong .emptyInput) else .ok a

/-- Sets what may be set once. -/
def once (flag : Flag) (given : Bool) (after : Arguments) : Except EarlyStop Arguments :=
  if given then .error (.wrong (.repeated flag)) else .ok after

def takeFlag (a : Arguments) (flag : Flag) (long : Bool) : Except EarlyStop Arguments := do
  let a ← a.settle
  match flag with
  | .strict => once flag a.strict { a with strict := true }
  | .json => once flag a.json { a with json := true }
  | .noBanner => once flag a.noBanner { a with noBanner := true }
  | .verbose => once flag a.verbose { a with verbose := true }
  | .help => .error (.help long)
  | .version => .error .version

/-- Accepts the input, which is one argument at most. -/
def takeInput (a : Arguments) (text : String) : Except EarlyStop Arguments :=
  match a.input? with
  | none => .ok { a with input? := some text }
  | some _ => .error (.wrong (.unknown text))

/-- Accepts what stands behind two dashes: a name, which takes no value. -/
def takeLong (flags : List Flag) (a : Arguments) (text : List Char) :
    Except EarlyStop Arguments :=
  let name := String.ofList (text.takeWhile (· != '='))
  match flags.find? (·.name == name) with
  | none => .error (.wrong (.unknown ("--" ++ name)))
  | some flag =>
      match text.dropWhile (· != '=') with
      | [] => a.takeFlag flag true
      | _ :: value => .error (.wrong (.unexpectedValue flag (String.ofList value)))

/-- Accepts what stands behind one dash: letters, one flag each. -/
def takeLetters (flags : List Flag) (a : Arguments) (letters : List Char) :
    Except EarlyStop Arguments :=
  letters.foldlM (fun a letter =>
    match flags.find? (·.letter? == some letter) with
    | none => .error (.wrong (.unknown (String.ofList ['-', letter])))
    | some flag => a.takeFlag flag false) a

/-- Accepts one argument before two lone dashes. -/
def take (flags : List Flag) (a : Arguments) (argument : String) : Except EarlyStop Arguments :=
  match argument.toList with
  | '-' :: '-' :: name => takeLong flags a name
  | '-' :: letter :: more => takeLetters flags a (letter :: more)
  | _ => a.takeInput argument

def takeAll (flags : List Flag) (a : Arguments) : List String → Except EarlyStop Arguments
  | [] => .ok a
  | "--" :: inputs => inputs.foldlM takeInput a
  | argument :: rest => do takeAll flags (← take flags a argument) rest

def parse (flags : List Flag) (arguments : List String) : Except EarlyStop Arguments := do
  (← takeAll flags {} arguments).settle

def toOptions (a : Arguments) (banner : List String) : Options where
  banner
  input? := a.input?.map Path.mk
  strict := a.strict
  json := a.json
  noBanner := a.noBanner
  verbose := a.verbose

end Arguments

end TokenEcho
