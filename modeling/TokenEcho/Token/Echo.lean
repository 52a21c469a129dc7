import TokenEcho.Stream
import TokenEcho.Token

/-!
# The echo of a source

Each token becomes one line of text. Keywords have no meaning here.
-/

namespace TokenEcho

def Token.echoText (t : Token) : String :=
  "Token: " ++ t.lexeme ++ " | Type: " ++ t.kind.name ++ " | Line: " ++ Nat.repr t.line.toNat

/-- Writes the line of each token, and tells whether all fit. -/
def echo (tokens : List Token) (sink : Sink) : Bool × Sink :=
  sink.writeAll (tokens.map fun t => t.echoText ++ "\n")

end TokenEcho
