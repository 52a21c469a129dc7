import TokenEcho.Toml.Draft
import TokenEcho.Toml.Moment
import TokenEcho.Toml.Number

/-!
# Documents

A document is a list of lines: assignments, headers of tables, headers with double brackets that add
a table to a series, comments and blanks. Assignments go to the table of the last header, and that
table reaches from its header to the last value that was assigned in it.
-/

namespace TokenEcho.Toml

open TokenEcho.Toml.Parser

/-- A value that holds no others. -/
def scalar : Parser Value :=
  (Value.string <$> anyString) <|> (moment *> pure .moment) <|> (Value.float <$> float) <|>
    (Value.integer <$> integer) <|> (chars "true".toList *> pure (.boolean true)) <|>
    (chars "false".toList *> pure (.boolean false))

def assignment (value : Parser (ByteRange × Value)) : Parser (List Key × ByteRange × Value) := do
  let keys ← key
  char '='
  lineBlanks
  let located ← value
  return (keys, located)

/-- An array, which may go over lines and end with a comma. -/
def array (value : Parser (ByteRange × Value)) : Parser Value := do
  char '['
  let item := arrayBlanks *> value <* arrayBlanks
  let items ← optional (separated item (char ',') <* optional (char ','))
  arrayBlanks
  char ']'
  return .array (items.getD [])

/-- A table within one line. -/
def inlineTable (value : Parser (ByteRange × Value)) : Parser Value := do
  char '\x7b'
  lineBlanks
  let pairs ← optional (separated (assignment value <* lineBlanks) (char ','))
  lineBlanks
  char '\x7d'
  let entries : Option Entries := (pairs.getD []).foldlM
    (fun entries (keys, range, v) => Entries.assign entries keys range v) []
  match entries with
  | none => failure
  | some entries => return .table (finishEntries entries)

/-- A value with so many levels of arrays and tables in it. -/
def value : Nat → Parser (ByteRange × Value)
  | 0 => ranged scalar
  | levels + 1 => ranged (scalar <|> array (value levels) <|> inlineTable (value levels))

/-- The header of a table. In a series each header adds a table. -/
structure Header where
  isSeries : Bool
  keys : List Key
  range : ByteRange

inductive Line where
  | assign (keys : List Key) (range : ByteRange) (v : Value)
  | header (h : Header)

/-- A header, which stands alone on its line. -/
def header : Parser Header := do
  let ofSeries := Prod.mk true <$> (chars ['[', '['] *> key <* chars [']', ']'])
  let ofTable := Prod.mk false <$> (char '[' *> key <* char ']')
  let (range, isSeries, keys) ← ranged (ofSeries <|> ofTable)
  lineRest
  return { isSeries, keys, range }

def line : Parser (Option Line) := do
  let found ← (newLine *> pure none) <|> (comment *> lineEnd *> pure none) <|>
    ((some ∘ Line.header) <$> header) <|> (do
      let (keys, range, v) ← assignment (value maxDepth)
      lineRest
      return some (.assign keys range v))
  lineBlanks
  return found

/-- The lines of a document, after a byte order mark. -/
def lines : Parser (List Line) := do
  discard (optional (char '\ufeff'))
  lineBlanks
  let found ← many line
  atEnd
  return found.reduceOption

/-- A document while its lines are read: the tables that are complete, and the one that grows, with
its header. -/
structure Progress where
  root : Entries := []
  header? : Option Header := none
  current : Entries := []

namespace Progress

def close (p : Progress) : Option Entries :=
  match p.header? with
  | none => some p.current
  | some h =>
      if h.isSeries then p.root.pushTable h.keys h.range p.current
      else p.root.closeTable h.keys h.range p.current

/-- Takes a value into the table that grows, whose range then ends with that value. -/
def assign (p : Progress) (keys : List Key) (range : ByteRange) (v : Value) : Option Progress := do
  let current ← p.current.assign keys range v
  let header? := p.header?.map fun h => { h with range := ⟨h.range.start, range.stop⟩ }
  return { p with header?, current }

def begin (p : Progress) (h : Header) : Option Progress := do
  let root ← p.close
  if h.isSeries then return { root, header? := some h, current := [] }
  let (root, held) ← root.openTable h.keys
  return { root, header? := some h, current := held }

def take (p : Progress) : Line → Option Progress
  | .assign keys range v => p.assign keys range v
  | .header h => p.begin h

end Progress

/-- The entries of a document, unless it breaks a rule. -/
def parse? (text : String) : Option (List Entry) := do
  let (found, _) ← lines.run { rest := text.toList, offset := 0 }
  let p ← found.foldlM Progress.take {}
  let entries ← p.close
  return finishEntries entries

end TokenEcho.Toml
