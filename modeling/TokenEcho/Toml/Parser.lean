import TokenEcho.Text.Utf8
import TokenEcho.Toml.Value

/-!
# Reading a document

A parser takes what it recognizes from the front of the text, or fails. The offset of the rest is
kept in bytes.
-/

namespace TokenEcho.Toml

/-- What is left of a text, and the byte offset at which it starts. -/
structure Input where
  rest : List Char
  offset : Nat

/-- A step that takes some of the input, or fails. -/
abbrev Parser := StateT Input Option

namespace Parser

def peek? : Parser (Option Char) := return (← get).rest.head?

def offset : Parser Nat := return (← get).offset

def satisfy (p : Char → Bool) : Parser Char := do
  match (← get).rest with
  | [] => failure
  | c :: rest =>
      if p c then
        set { rest, offset := (← get).offset + c.utf8Size : Input }
        return c
      else failure

def char (c : Char) : Parser Unit := discard (satisfy (· == c))

def chars (cs : List Char) : Parser Unit := cs.forM char

def notNext (c : Char) : Parser Unit := do
  if (← peek?) == some c then failure

def atEnd : Parser Unit := do
  if (← peek?).isSome then failure

def upTo {α : Type} (p : Parser α) : Nat → Parser (List α)
  | 0 => return []
  | n + 1 => do
      match ← optional p with
      | none => return []
      | some x => return x :: (← upTo p n)

/-- As many repetitions as there are, of a parser that takes at least one character. -/
def many {α : Type} (p : Parser α) : Parser (List α) := do upTo p (← get).rest.length

def takeWhile (p : Char → Bool) : Parser (List Char) := many (satisfy p)

def exactly (p : Char → Bool) (n : Nat) : Parser (List Char) := (List.replicate n p).mapM satisfy

def separated {α : Type} (p : Parser α) (separator : Parser Unit) : Parser (List α) := do
  let x ← p
  let xs ← many (separator *> p)
  return x :: xs

def ranged {α : Type} (p : Parser α) : Parser (ByteRange × α) := do
  let start ← offset
  let x ← p
  return (⟨start, ← offset⟩, x)

end Parser

end TokenEcho.Toml
