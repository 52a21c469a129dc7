import TokenEcho.Text.Utf8

/-!
# Places in a source

A position counts lines and columns from one and bytes from zero, in 32-bit words. Only a line feed
ends a line; a carriage return is a character like any other. A span names a source and two places
in it, the second one exclusive.
-/

namespace TokenEcho

/-- A place between two characters of a source. -/
structure Position where
  line : UInt32
  column : UInt32
  offset : UInt32
deriving DecidableEq, Inhabited

namespace Position

def start : Position := ⟨1, 1, 0⟩

def advance (p : Position) (c : Char) : Position :=
  let offset := p.offset + c.utf8Size.toUInt32
  if c = '\n' then { line := p.line + 1, column := 1, offset }
  else { line := p.line, column := p.column + 1, offset }

def advanceAll (p : Position) (cs : List Char) : Position := cs.foldl advance p

@[simp] theorem advanceAll_nil (p : Position) : p.advanceAll [] = p := rfl

@[simp] theorem advanceAll_cons (p : Position) (c : Char) (cs : List Char) :
    p.advanceAll (c :: cs) = (p.advance c).advanceAll cs := rfl

theorem advanceAll_append (p : Position) (xs ys : List Char) :
    p.advanceAll (xs ++ ys) = (p.advanceAll xs).advanceAll ys := List.foldl_append

def render (p : Position) : String :=
  Nat.repr p.line.toNat ++ ":" ++ Nat.repr p.column.toNat

end Position

structure Span where
  file : String
  start : Position
  stop : Position
deriving DecidableEq, Inhabited

namespace Span

def range (s : Span) : Nat × Nat := (s.start.offset.toNat, s.stop.offset.toNat)

/-- The text that the span covers, if both ends fall between characters of the source and are in
order. -/
def text? (s : Span) (source : String) : Option String :=
  (Text.slice? source.toList s.range.1 s.range.2).map String.ofList

def render (s : Span) : String := s.file ++ ":" ++ s.start.render

end Span

end TokenEcho
