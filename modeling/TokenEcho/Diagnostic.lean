import TokenEcho.Source.Place

/-!
# Diagnostics

What the front end has to say about a source: a message, perhaps a place, perhaps a suggestion.
-/

namespace TokenEcho

inductive Severity where
  | error
  | warning
deriving DecidableEq, Inhabited

def Severity.name : Severity → String
  | .error => "error"
  | .warning => "warning"

structure Diagnostic where
  severity : Severity
  message : String
  span? : Option Span := none
  suggestion? : Option String := none
deriving DecidableEq, Inhabited

namespace Diagnostic

/-- Whether the diagnostic makes a strict run fail. -/
def isError (d : Diagnostic) : Bool := d.severity == .error

/-- The diagnostic in running text: the severity, the message, and the place on the next line. -/
def render (d : Diagnostic) : String :=
  d.severity.name ++ ": " ++ d.message ++
    match d.span? with
    | none => ""
    | some span => "\n  --> " ++ span.render

end Diagnostic

/-- The diagnostics of one run, in the order of their discovery. -/
structure Diagnostics where
  diagnostics : List Diagnostic := []
deriving DecidableEq, Inhabited

namespace Diagnostics

def add (bag : Diagnostics) (d : Diagnostic) : Diagnostics := ⟨bag.diagnostics ++ [d]⟩

def hasError (bag : Diagnostics) : Bool := bag.diagnostics.any Diagnostic.isError

end Diagnostics

end TokenEcho
