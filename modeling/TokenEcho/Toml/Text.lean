import TokenEcho.Toml.Parser

/-!
# Blanks, comments, strings and keys

A basic string has escapes, a literal one has none. Three quotes open a string that goes over lines;
the line feed right after them is dropped, and up to two quotes may stand before the closing three.
-/

namespace TokenEcho.Toml

open TokenEcho.Toml.Parser

def isLineBlank (c : Char) : Bool := c == ' ' || c == '\t'

/-- The characters of a comment: no controls but the tab. -/
def isCommentChar (c : Char) : Bool := c == '\t' || (' ' ≤ c && c != '\x7f')

/-- The characters that stand for themselves in a basic string. -/
def isBasicChar (c : Char) : Bool := isCommentChar c && c != '"' && c != '\\'

def isLiteralChar (c : Char) : Bool := isCommentChar c && c != '\''

def isBareKeyChar (c : Char) : Bool := c.isAlphanum || c == '_' || c == '-'

def lineBlanks : Parser Unit := discard (takeWhile isLineBlank)

def newLine : Parser Unit := char '\n' <|> chars ['\r', '\n']

def comment : Parser Unit := char '#' *> discard (takeWhile isCommentChar)

def lineEnd : Parser Unit := newLine <|> atEnd

/-- What may follow an expression on its line. -/
def lineRest : Parser Unit := lineBlanks *> discard (optional comment) *> lineEnd

def arrayBlanks : Parser Unit :=
  discard (many (discard (satisfy isLineBlank) <|> newLine <|> (comment *> newLine)))

def hexValue (c : Char) : Nat :=
  if c.isDigit then c.toNat - 48 else if c.isUpper then c.toNat - 55 else c.toNat - 87

def isHexDigit (c : Char) : Bool :=
  c.isDigit || ('a' ≤ c && c ≤ 'f') || ('A' ≤ c && c ≤ 'F')

def ofDigits (base : Nat) (digits : List Char) : Nat :=
  digits.foldl (fun n c => n * base + hexValue c) 0

/-- The character with a number of so many hexadecimal digits. -/
def codePoint (digits : Nat) : Parser Char := do
  let n := ofDigits 16 (← exactly isHexDigit digits)
  if n.isValidChar then return Char.ofNat n else failure

def escape : Parser Char := do
  match ← satisfy fun _ => true with
  | 'b' => return '\x08'
  | 't' => return '\t'
  | 'n' => return '\n'
  | 'f' => return '\x0c'
  | 'r' => return '\r'
  | '"' => return '"'
  | '\\' => return '\\'
  | 'u' => codePoint 4
  | 'U' => codePoint 8
  | _ => failure

def basicString : Parser String := do
  char '"'
  let body ← many (satisfy isBasicChar <|> (char '\\' *> escape))
  char '"'
  return String.ofList body

def literalString : Parser String := do
  char '\''
  let body ← takeWhile isLiteralChar
  char '\''
  return String.ofList body

/-- One or two quotes inside a string that three would close. -/
def innerQuotes (quote : Char) : Parser (List Char) :=
  (chars [quote, quote] *> notNext quote *> pure [quote, quote]) <|>
    (char quote *> notNext quote *> pure [quote])

/-- The closing quotes of a string over several lines, and those before them that belong to it. -/
def closingQuotes (quote : Char) : Parser (List Char) :=
  let close (inner : List Char) : Parser (List Char) :=
    chars inner *> chars [quote, quote, quote] *> pure inner
  close [quote, quote] <|> close [quote] <|> close []

/-- A string over several lines, made of pieces. -/
def multiLine (quote : Char) (piece : Parser (List Char)) : Parser String := do
  chars [quote, quote, quote]
  discard (optional newLine)
  let body ← many (piece <|> (newLine *> pure ['\n']) <|> innerQuotes quote)
  let inner ← closingQuotes quote
  return String.ofList (body.flatten ++ inner)

/-- A backslash at the end of a line takes the blanks and the line ends after it away. -/
def continuation : Parser Unit := do
  lineBlanks
  newLine
  discard (many (discard (satisfy isLineBlank) <|> newLine))

def basicPiece : Parser (List Char) :=
  (List.singleton <$> satisfy isBasicChar) <|>
    (char '\\' *> ((continuation *> pure []) <|> (List.singleton <$> escape)))

def literalPiece : Parser (List Char) := List.singleton <$> satisfy isLiteralChar

def anyString : Parser String :=
  multiLine '"' basicPiece <|> multiLine '\'' literalPiece <|> basicString <|> literalString

structure Key where
  text : String
  range : ByteRange

def simpleKey : Parser Key := do
  let bare : Parser String := do
    let body ← takeWhile isBareKeyChar
    if body.isEmpty then failure else return String.ofList body
  let (range, text) ← ranged (basicString <|> literalString <|> bare)
  return { text, range }

/-- The greatest number of parts of a key, and of arrays and tables within each other. -/
def maxDepth : Nat := 79

/-- A key: parts with points between them. -/
def key : Parser (List Key) := do
  let parts ← separated (lineBlanks *> simpleKey <* lineBlanks) (char '.')
  if parts.length > maxDepth then failure else return parts

end TokenEcho.Toml
