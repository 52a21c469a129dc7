import TokenEcho.Text.Blank
import TokenEcho.Text.Width

/-!
# The lines of an excerpt

An excerpt shows a source line by line, and here every vertical blank ends a line: the carriage
return and the line feed, alone or as a pair, and U+000B, U+000C, U+0085, U+2028 and U+2029. Places
are counted in characters.
-/

namespace TokenEcho

/-- A line of a source: its number from one, the index of its first character, and its characters
with those that end it. -/
structure SourceLine where
  number : Nat
  start : Nat
  chars : List Char

namespace SourceLine

def isLineEnd (c : Char) : Bool :=
  c ∈ ['\n', '\r', '\x0b', '\x0c', '\u0085', '\u2028', '\u2029']

def splitFirst (cs : List Char) : List Char × List Char :=
  let line := cs.takeWhile (!isLineEnd ·)
  match cs.dropWhile (!isLineEnd ·) with
  | [] => (line, [])
  | '\r' :: '\n' :: rest => (line ++ ['\r', '\n'], rest)
  | ending :: rest => (line ++ [ending], rest)

theorem splitFirst_snd_length_lt {cs : List Char} (h : cs ≠ []) :
    (splitFirst cs).2.length < cs.length := by
  have hle := (List.dropWhile_suffix (!isLineEnd ·) (l := cs)).length_le
  unfold splitFirst
  dsimp only
  split
  · exact List.length_pos_iff.2 h
  · next heq =>
      rw [heq] at hle
      simp only [List.length_cons] at hle ⊢
      omega
  · next heq =>
      rw [heq] at hle
      exact hle

/-- The lines of a text whose first line has the given number and start. -/
def linesFrom (number start : Nat) (cs : List Char) : List SourceLine :=
  if h : cs = [] then []
  else
    have := splitFirst_snd_length_lt h
    let chars := (splitFirst cs).1
    { number, start, chars } :: linesFrom (number + 1) (start + chars.length) (splitFirst cs).2
termination_by cs.length

/-- The lines of a source. A source that ends in a line end has no empty line after it. -/
def linesOf (cs : List Char) : List SourceLine := linesFrom 1 0 cs

/-- The last line that starts at or before a place. -/
def locate? (lines : List SourceLine) (place : Nat) : Option SourceLine :=
  (lines.takeWhile (·.start ≤ place)).getLast?

/-- The characters of the line without the white space at its end. -/
def shown (line : SourceLine) : List Char :=
  (line.chars.reverse.dropWhile Text.isBlank).reverse

def tabStop : Nat := 4

/-- The number of terminal columns of the character at an index of its line. A tab fills up to the
next stop, counted in characters. -/
def widthAt (index : Nat) (c : Char) : Nat :=
  if c = '\t' then tabStop - index % tabStop
  else if Text.isBlank c then 1
  else Text.charWidth c

def glyphs (index : Nat) (c : Char) : List Char :=
  if Text.isBlank c then List.replicate (widthAt index c) ' ' else [c]

/-- The widths of the first characters of the line. Past its shown text each counts as one. -/
def widths (line : SourceLine) (count : Nat) : List Nat :=
  let shown := line.shown.zipIdx.map fun (c, index) => widthAt index c
  shown.take count ++ List.replicate (count - shown.length) 1

end SourceLine

end TokenEcho
