import TokenEcho.Diagnostic
import TokenEcho.Source.Reader
import TokenEcho.Text.Blank
import TokenEcho.Text.DecimalDigit
import TokenEcho.Text.Letter
import TokenEcho.Token

/-!
# From a source to its tokens

The lexer skips white space and then lets the next character decide what comes: a letter starts a
word, a decimal digit a number, a quote a string, and any other character is a symbol by itself.
Words and numbers are as long as they can be. A string runs to the next quote or to the end of the
source; in strict mode the second case is an error, and the tokens are the same either way.
-/

namespace TokenEcho

/-- Whether a character can stand in a word after its first letter. -/
def isWordChar (c : Char) : Bool := Text.isLetter c || Text.isDecimalDigit c || c == '_'

structure Lexer where
  reader : Reader
  strict : Bool := false
  bag : Diagnostics := {}

namespace Lexer

/-- The name of a source that was typed and not read from a file. -/
def consoleName : String := "<stdin>"

def ofSource (source : String) (file : String) : Lexer := { reader := .ofSource source file }

def withStrict (l : Lexer) (strict : Bool) : Lexer := { l with strict }

def unterminatedString (span : Span) : Diagnostic where
  severity := .error
  message := "unterminated string literal"
  span? := some span
  suggestion? := some "add a closing '\"'"

def token (l : Lexer) (kind : TokenKind) (lexeme : List Char) (start : Position) : Token where
  kind
  lexeme := String.ofList lexeme
  line := l.reader.position.line
  span := l.reader.spanSince start

/-- The rest of a word whose first letter has been read. -/
def word (l : Lexer) (start : Position) (first : Char) : Token × Lexer :=
  let (more, reader) := l.reader.takeWhile isWordChar
  let l := { l with reader }
  (l.token (.ofWord (String.ofList (first :: more))) (first :: more) start, l)

def number (l : Lexer) (start : Position) (first : Char) : Token × Lexer :=
  let (more, reader) := l.reader.takeWhile Text.isDecimalDigit
  let l := { l with reader }
  (l.token .number (first :: more) start, l)

/-- The rest of a string whose opening quote has been read. There are no escapes, and line feeds
belong to the body. -/
def string (l : Lexer) (start : Position) : Token × Lexer :=
  let (body, reader) := l.reader.takeWhile (· != '"')
  let (closed, reader) := reader.accept '"'
  let l := { l with reader }
  let l := if !closed && l.strict then
      { l with bag := l.bag.add (unterminatedString (l.reader.spanSince start)) }
    else l
  (l.token .string body start, l)

def tokenAfter (l : Lexer) (start : Position) (first : Char) : Token × Lexer :=
  if first = '"' then l.string start
  else if Text.isLetter first then l.word start first
  else if Text.isDecimalDigit first then l.number start first
  else (l.token .symbol [first] start, l)

def skipBlanks (l : Lexer) : Lexer := { l with reader := (l.reader.takeWhile Text.isBlank).2 }

/-- Reads the next token, or finds that only white space is left. -/
def next (l : Lexer) : Option Token × Lexer :=
  let l := l.skipBlanks
  match l.reader.read? with
  | none => (none, l)
  | some (first, reader) =>
      let (t, after) := { l with reader }.tokenAfter l.reader.position first
      (some t, after)

theorem tokenAfter_rest_length_le (l : Lexer) (start : Position) (first : Char) :
    (l.tokenAfter start first).2.reader.rest.length ≤ l.reader.rest.length := by
  unfold tokenAfter
  split
  · have := Reader.accept_rest_length_le (l.reader.takeWhile (· != '"')).2 '"'
    have := Reader.length_dropWhile_le (· != '"') l.reader.rest
    simp only [string]
    split <;> simp_all <;> omega
  · split
    · exact Reader.length_dropWhile_le _ _
    · split
      · exact Reader.length_dropWhile_le _ _
      · exact Nat.le_refl _

theorem next_rest_length_lt {l after : Lexer} {t : Token} (h : l.next = (some t, after)) :
    after.reader.rest.length < l.reader.rest.length := by
  unfold next at h
  dsimp only at h
  split at h
  · simp at h
  · next first reader heq =>
      simp only [Prod.mk.injEq, Option.some.injEq] at h
      obtain ⟨-, rfl⟩ := h
      have hrest := Reader.read?_eq_some heq
      have hskip := Reader.length_dropWhile_le Text.isBlank l.reader.rest
      have hafter := tokenAfter_rest_length_le { l.skipBlanks with reader }
        l.skipBlanks.reader.position first
      simp only [skipBlanks, Reader.takeWhile_rest] at hrest hafter
      rw [hrest] at hskip
      simp only [List.length_cons] at hskip
      simp only [skipBlanks]
      omega

/-- Reads all tokens that are left, behind those that have been found, the latest first. -/
def collect (l : Lexer) (found : List Token) : List Token × Diagnostics :=
  match h : l.next with
  | (none, after) => (found.reverse, after.bag)
  | (some t, after) =>
      have := next_rest_length_lt h
      collect after (t :: found)
termination_by l.reader.rest.length

def tokenize (l : Lexer) : List Token × Diagnostics := l.collect []

/-- The answers to one call for a token after another, up to the first that finds none. -/
def toList (l : Lexer) : List Token :=
  match h : l.next with
  | (none, _) => []
  | (some t, after) =>
      have := next_rest_length_lt h
      t :: toList after
termination_by l.reader.rest.length

end Lexer

/-- The tokens of a typed source, asked for one by one in lenient mode. -/
def tokenize (source : String) : List Token := (Lexer.ofSource source Lexer.consoleName).toList

end TokenEcho
