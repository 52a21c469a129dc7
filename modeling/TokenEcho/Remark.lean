/-!
# Progress messages

Messages beside the real output, each with a level. A filter lets through what is at least as urgent
as its own level.
-/

namespace TokenEcho

/-- The levels of messages, the most urgent first. -/
inductive Level where
  | error
  | warn
  | info
  | debug
deriving DecidableEq, Inhabited

namespace Level

def rank : Level → Nat
  | error => 0
  | warn => 1
  | info => 2
  | debug => 3

/-- The tag before a message, as wide for every level. -/
def tag : Level → String
  | error => "[ERROR]"
  | warn => "[WARN] "
  | info => "[INFO] "
  | debug => "[DEBUG]"

def format (level : Level) (message : String) : String := level.tag ++ " " ++ message

end Level

/-- What is shown beside the real output: a message, or a report that is a text by itself. -/
inductive Remark where
  | message (level : Level) (text : String)
  | report (text : String)
deriving DecidableEq, Inhabited

namespace Remark

def render : Remark → String
  | message level text => level.format text ++ "\n"
  | report text => text

def renderAll (remarks : List Remark) : String := String.join (remarks.map render)

end Remark

structure LogFilter where
  least : Level

namespace LogFilter

def ofVerbose (verbose : Bool) : LogFilter := ⟨if verbose then .debug else .warn⟩

def enabled (log : LogFilter) (level : Level) : Bool := level.rank ≤ log.least.rank

def filter? (log : LogFilter) (level : Level) (message : String) : Option Remark :=
  if log.enabled level then some (.message level message) else none

end LogFilter

end TokenEcho
