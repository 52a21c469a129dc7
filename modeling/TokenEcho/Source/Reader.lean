import TokenEcho.Source.Place

/-!
# Reading a source from left to right

A reader keeps the whole source, what is still unread, and the position between the two.
-/

namespace TokenEcho

structure Reader where
  file : String
  source : List Char
  rest : List Char
  position : Position

namespace Reader

def ofSource (source file : String) : Reader :=
  { file, source := source.toList, rest := source.toList, position := .start }

def peek? (c : Reader) : Option Char := c.rest.head?

def atEnd (c : Reader) : Bool := c.rest.isEmpty

def read? (c : Reader) : Option (Char × Reader) :=
  match c.rest with
  | [] => none
  | x :: rest => some (x, { c with rest, position := c.position.advance x })

/-- Reads the next character if it is the expected one, and tells whether it was. -/
def accept (c : Reader) (expected : Char) : Bool × Reader :=
  match c.read? with
  | some (x, after) => if x = expected then (true, after) else (false, c)
  | none => (false, c)

def takeWhile (c : Reader) (p : Char → Bool) : List Char × Reader :=
  let run := c.rest.takeWhile p
  (run, { c with rest := c.rest.dropWhile p, position := c.position.advanceAll run })

/-- The text from a byte offset to the reader, if the offset falls between two characters that have
been read. -/
def textSince? (c : Reader) (start : UInt32) : Option String :=
  (Text.slice? c.source start.toNat c.position.offset.toNat).map String.ofList

def spanSince (c : Reader) (start : Position) : Span :=
  { file := c.file, start, stop := c.position }

@[simp] theorem takeWhile_fst (c : Reader) (p : Char → Bool) :
    (c.takeWhile p).1 = c.rest.takeWhile p := rfl

@[simp] theorem takeWhile_rest (c : Reader) (p : Char → Bool) :
    (c.takeWhile p).2.rest = c.rest.dropWhile p := rfl

theorem read?_eq_some {c after : Reader} {x : Char} (h : c.read? = some (x, after)) :
    c.rest = x :: after.rest := by
  unfold read? at h
  split at h
  · simp at h
  · next y rest heq =>
      simp only [Option.some.injEq, Prod.mk.injEq] at h
      obtain ⟨rfl, rfl⟩ := h
      exact heq

theorem length_dropWhile_le (p : Char → Bool) (cs : List Char) :
    (cs.dropWhile p).length ≤ cs.length :=
  (List.dropWhile_suffix p).length_le

theorem accept_rest_length_le (c : Reader) (expected : Char) :
    (c.accept expected).2.rest.length ≤ c.rest.length := by
  unfold accept
  split
  · next x after h =>
      have := read?_eq_some h
      split <;> simp [this]
  · simp

end Reader

end TokenEcho
