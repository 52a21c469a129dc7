import TokenEcho.Diagnostic.Paint
import TokenEcho.Diagnostic.SourceLine

/-!
# Excerpts

A diagnostic with a place is drawn with the lines of the source around that place. The place is a
range of characters. On one line it is underlined, and the message hangs from its middle; over
several lines a bracket beside the first and the last of them leads to the message.
-/

namespace TokenEcho

/-- The number of characters of a source that start before a byte offset. -/
def charsBefore (cs : List Char) (offset : Nat) : Nat := go cs offset 0
where
  go : List Char → Nat → Nat → Nat
    | [], _, count => count
    | c :: rest, offset, count =>
        if offset = 0 then count else go rest (offset - c.utf8Size) (count + 1)

/-- The characters that a span marks in a source, at least one. -/
def labelRange (cs : List Char) (span : Span) : Nat × Nat :=
  let first := charsBefore cs span.start.offset.toNat
  (first, max (charsBefore cs span.stop.offset.toNat) (first + 1))

/-- A diagnostic at a place of a source that has a line there. -/
structure Excerpt where
  severity : Severity
  message : String
  suggestion? : Option String
  file : String
  lines : List SourceLine
  first : Nat
  past : Nat
  opening : SourceLine
  closing : SourceLine

namespace Excerpt

open Piece

/-- The number of digits of the greatest line number shown. -/
def gutter (e : Excerpt) : Nat := (Nat.repr e.closing.number).length

def marks (e : Excerpt) (text : List Char) : List Piece := each (.mark e.severity) text

def edged (e : Excerpt) (edge : String) : List Piece :=
  [blanks 1, ⟨.margin, "".pushn ' ' (e.gutter + 1) ++ edge⟩, blanks 1]

/-- The edge before everything that is not source text. -/
def margin (e : Excerpt) : List Piece := e.edged "│"

def numbered (e : Excerpt) (line : SourceLine) : List Piece :=
  let number := Nat.repr line.number
  [blanks 1, ⟨.frame, "".pushn ' ' (e.gutter - number.length) ++ number ++ " │"⟩, blanks 1]

def text (e : Excerpt) (line : SourceLine) : List Piece :=
  line.shown.zipIdx.flatMap fun (c, index) =>
    let place := line.start + index
    let paint : Paint :=
      if e.first ≤ place && place < e.past then .mark e.severity else .unmarked
    each paint (SourceLine.glyphs index c)

/-- A cell of the drawing under a line: a sign, stretched over the width of its column. -/
def cell (e : Excerpt) (sign : Char) (width : Nat) : List Piece :=
  match width with
  | 0 => []
  | width + 1 => e.marks (sign :: List.replicate width '─')

def header (e : Excerpt) : List (List Piece) :=
  let place := ":" ++ Nat.repr e.opening.number ++ ":" ++
    Nat.repr (e.first - e.opening.start + 1)
  [[blanks (e.gutter + 2), ⟨.frame, "╭"⟩, ⟨.frame, "─"⟩, ⟨.frame, "["⟩, plain (e.file ++ place),
      ⟨.frame, "]"⟩],
    [blanks (e.gutter + 2), ⟨.frame, "│"⟩]]

/-- A range within one line: the line, the range underlined, and the message under its middle. -/
def single (e : Excerpt) : List (List Piece) :=
  let start := e.opening.start
  let arrow := (e.first + e.past) / 2 - start
  let columns := (e.opening.widths (e.past - start + 2)).zipIdx
  let underline := columns.flatMap fun (width, column) =>
    if column = arrow then e.cell '┬' width
    else if e.first ≤ start + column && start + column < e.past then e.cell '─' width
    else [blanks width]
  let pointer := columns.flatMap fun (width, column) =>
    if column < arrow then [blanks width]
    else if column = arrow then e.cell '╰' width
    else e.cell '─' width
  [e.numbered e.opening ++ e.text e.opening,
    e.margin ++ underline,
    e.margin ++ pointer ++ [plain (" " ++ e.message)]]

/-- A range over several lines: the first and the last of them beside a bracket, and the message at
the end of the bracket. -/
def multiple (e : Excerpt) : List (List Piece) :=
  let columns := e.closing.widths (e.closing.chars.length + 2)
  [e.numbered e.opening ++ e.marks ['╭', '─', '▶', ' '] ++ e.text e.opening] ++
    (if e.opening.number + 1 < e.closing.number then
      [e.edged "┆" ++ e.marks ['┆'] ++ [blanks 3]] else []) ++
    [e.numbered e.closing ++ e.marks ['├', '─', '▶', ' '] ++ e.text e.closing,
      e.margin ++ e.marks ['│'] ++ [blanks (columns.foldl (· + ·) 3)],
      e.margin ++ e.marks ['╰', '─', '─', '─'] ++ columns.flatMap (e.cell '─') ++
        [plain (" " ++ e.message)]]

def isMultiple (e : Excerpt) : Bool := e.opening.number < e.closing.number

/-- The lines of the source with the range marked. At the end of the source there is none. -/
def body (e : Excerpt) (length : Nat) : List (List Piece) :=
  if e.first = length then [e.margin]
  else if e.isMultiple then e.multiple
  else e.single

def besideHelp (e : Excerpt) : List Piece :=
  if !e.isMultiple then []
  else if e.lines[1]?.any (·.start = e.first) then e.marks ['│'] ++ [blanks 3]
  else [blanks 4]

def help (e : Excerpt) : List (List Piece) :=
  match e.suggestion? with
  | none => []
  | some suggestion =>
      [e.margin ++ e.besideHelp,
        e.margin ++ e.besideHelp ++ [⟨.note, "Help"⟩, plain (": " ++ suggestion)]]

def footer (e : Excerpt) : List Piece := [⟨.frame, "".pushn '─' (e.gutter + 2) ++ "╯"⟩]

def draw (e : Excerpt) (length : Nat) : List (List Piece) :=
  e.header ++ e.body length ++ e.help ++ [e.footer]

end Excerpt

namespace Diagnostic

def title (d : Diagnostic) : String :=
  match d.severity with
  | .error => "Error:"
  | .warning => "Warning:"

/-- The excerpt for a place of a source, unless the source is empty. -/
def excerpt? (d : Diagnostic) (span : Span) (cs : List Char) (file : String) : Option Excerpt := do
  let lines := SourceLine.linesOf cs
  let (first, past) := labelRange cs span
  let opening ← SourceLine.locate? lines first
  let closing ← SourceLine.locate? lines (past - 1)
  return {
    severity := d.severity
    message := d.message
    suggestion? := d.suggestion?
    file, lines, first, past, opening, closing }

/-- The report of a diagnostic about a source. Without a place it is running text with the
suggestion below. -/
def report (d : Diagnostic) (source file : String) (color : Bool) : String :=
  match d.span? with
  | none =>
      d.render ++ "\n" ++
        (match d.suggestion? with
        | none => ""
        | some suggestion => "   = help: " ++ suggestion ++ "\n") ++ "\n"
  | some span =>
      let cs := source.toList
      let heading := [⟨.mark d.severity, d.title⟩, Piece.plain (" " ++ d.message)]
      let drawing := ((d.excerpt? span cs file).map (·.draw cs.length)).getD []
      Piece.renderLines color (heading :: drawing)

end Diagnostic

end TokenEcho
