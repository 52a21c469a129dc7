import TokenEcho.Json
import TokenEcho.Token

/-!
# Tokens as JSON

A list of tokens is an array of objects, whose fields are those of the token, in order.
-/

namespace TokenEcho

def Position.toJson (p : Position) : Json :=
  .object [("line", .number p.line.toNat), ("column", .number p.column.toNat),
    ("offset", .number p.offset.toNat)]

def Span.toJson (s : Span) : Json :=
  .object [("file", .string s.file), ("start", s.start.toJson), ("end", s.stop.toJson)]

def TokenKind.toJson (k : TokenKind) : Json := .string k.name

def Token.toJson (t : Token) : Json :=
  .object [("kind", t.kind.toJson), ("lexeme", .string t.lexeme), ("line", .number t.line.toNat),
    ("span", t.span.toJson)]

/-- Tokens as a pretty JSON array, without a final line feed. -/
def tokensAsJson (tokens : List Token) : String := (Json.array (tokens.map Token.toJson)).pretty

end TokenEcho
