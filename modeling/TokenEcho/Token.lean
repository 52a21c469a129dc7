import TokenEcho.Source.Place

/-!
# Tokens

A token is a kind, the text that matters, and the place it was read from.
-/

namespace TokenEcho

/-- The kinds of tokens. The last four are reserved: no source has them, since parentheses and
operators are read as symbols. -/
inductive TokenKind where
  | identifier
  | number
  | string
  | keyword
  | symbol
  | openParen
  | closeParen
  | binaryOperator
  | letBinding
deriving DecidableEq, Inhabited

namespace TokenKind

def all : List TokenKind :=
  [identifier, number, string, keyword, symbol, openParen, closeParen, binaryOperator, letBinding]

theorem mem_all (k : TokenKind) : k ∈ all := by cases k <;> decide

def name : TokenKind → String
  | identifier => "Identifier"
  | number => "Number"
  | string => "String"
  | keyword => "Keyword"
  | symbol => "Symbol"
  | openParen => "OpenParen"
  | closeParen => "CloseParen"
  | binaryOperator => "BinaryOperator"
  | letBinding => "Let"

def ofName? (text : String) : Option TokenKind := all.find? fun k => k.name == text

theorem ofName?_name (k : TokenKind) : ofName? k.name = some k := by cases k <;> rfl

def keywords : List String := ["let", "writl"]

def ofWord (word : String) : TokenKind := if word ∈ keywords then keyword else identifier

end TokenKind

/-- A token. The lexeme of a string is its body, without the quotes; the span has the quotes too.
The line is the one on which the token ends. -/
structure Token where
  kind : TokenKind
  lexeme : String
  line : UInt32
  span : Span
deriving DecidableEq, Inhabited

end TokenEcho
