import TokenEcho.Diagnostic

/-!
# Painted text

A report is drawn in pieces of text, each with the role it plays. The role decides the color, when
colors are wanted.
-/

namespace TokenEcho

/-- What a piece of a report is. -/
inductive Paint where
  | plain
  | frame
  | margin
  | unmarked
  | note
  | mark (severity : Severity)
deriving DecidableEq

def Paint.code? : Paint → Option String
  | plain => none
  | frame => some "38;5;246"
  | margin => some "38;5;240"
  | unmarked => some "38;5;249"
  | note => some "38;5;115"
  | mark .error => some "31"
  | mark .warning => some "33"

structure Piece where
  paint : Paint
  text : String

namespace Piece

/-- The piece with the control sequences for its color, or just its text. -/
def render (color : Bool) (piece : Piece) : String :=
  match color, piece.paint.code? with
  | true, some code => "\x1b[" ++ code ++ "m" ++ piece.text ++ "\x1b[0m"
  | _, _ => piece.text

def plain (text : String) : Piece := ⟨.plain, text⟩

def blanks (n : Nat) : Piece := plain (String.ofList (List.replicate n ' '))

def each (paint : Paint) (text : List Char) : List Piece :=
  text.map fun c => ⟨paint, c.toString⟩

def renderLines (color : Bool) (lines : List (List Piece)) : String :=
  String.join (lines.map fun line => String.join (line.map (render color)) ++ "\n")

end Piece

end TokenEcho
