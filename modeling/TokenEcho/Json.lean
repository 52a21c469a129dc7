/-!
# JSON texts

Values with natural numbers, strings, arrays and objects, and two ways to write them: compact, and
pretty with an indentation of two spaces. A string escapes the quote, the backslash and the control
characters below the space, and nothing else.
-/

namespace TokenEcho

/-- A JSON value. The fields of an object keep their order. -/
inductive Json where
  | number (n : Nat)
  | string (text : String)
  | array (items : List Json)
  | object (fields : List (String × Json))

namespace Json

def hexDigit (n : Nat) : Char := if n < 10 then Char.ofNat (48 + n) else Char.ofNat (87 + n)

def escapeChar (c : Char) : List Char :=
  match c with
  | '"' => ['\\', '"']
  | '\\' => ['\\', '\\']
  | '\n' => ['\\', 'n']
  | '\r' => ['\\', 'r']
  | '\t' => ['\\', 't']
  | '\x08' => ['\\', 'b']
  | '\x0c' => ['\\', 'f']
  | c =>
      if c.toNat < 32 then
        ['\\', 'u', '0', '0', hexDigit (c.toNat / 16), hexDigit (c.toNat % 16)]
      else [c]

def quote (text : String) : String :=
  "\"" ++ String.ofList (text.toList.flatMap escapeChar) ++ "\""

mutual

def compact : Json → String
  | number n => Nat.repr n
  | string text => quote text
  | array items => "[" ++ compactItems items ++ "]"
  | object fields => "\x7b" ++ compactFields fields ++ "\x7d"

def compactItems : List Json → String
  | [] => ""
  | [item] => compact item
  | item :: rest => compact item ++ "," ++ compactItems rest

def compactFields : List (String × Json) → String
  | [] => ""
  | [(key, value)] => quote key ++ ":" ++ compact value
  | (key, value) :: rest => quote key ++ ":" ++ compact value ++ "," ++ compactFields rest

end

def newLine (depth : Nat) : String := "\n" ++ String.ofList (List.replicate (2 * depth) ' ')

mutual

/-- A value at a depth of nesting, each item and each field on a line of its own. -/
def prettyAt (depth : Nat) : Json → String
  | number n => Nat.repr n
  | string text => quote text
  | array [] => "[]"
  | array (item :: rest) =>
      "[" ++ prettyItems (depth + 1) (item :: rest) ++ newLine depth ++ "]"
  | object [] => "\x7b\x7d"
  | object (field :: rest) =>
      "\x7b" ++ prettyFields (depth + 1) (field :: rest) ++ newLine depth ++ "\x7d"

def prettyItems (depth : Nat) : List Json → String
  | [] => ""
  | [item] => newLine depth ++ prettyAt depth item
  | item :: rest => newLine depth ++ prettyAt depth item ++ "," ++ prettyItems depth rest

def prettyFields (depth : Nat) : List (String × Json) → String
  | [] => ""
  | [(key, value)] => newLine depth ++ quote key ++ ": " ++ prettyAt depth value
  | (key, value) :: rest =>
      newLine depth ++ quote key ++ ": " ++ prettyAt depth value ++ "," ++ prettyFields depth rest

end

def pretty (value : Json) : String := prettyAt 0 value

end Json

end TokenEcho
