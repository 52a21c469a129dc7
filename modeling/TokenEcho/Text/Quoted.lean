import TokenEcho.Text.Unprintable

/-!
# Quoted texts in messages

A text between double quotes, in which nothing can hide: quotes, backslashes and line ends are
escaped, and an unprintable character is shown by its number.
-/

namespace TokenEcho.Text

def hexText (n : Nat) : List Char := Nat.toDigits 16 n

/-- A character as it is shown between double quotes. -/
def quotedChar (c : Char) : List Char :=
  match c with
  | '\x00' => ['\\', '0']
  | '\t' => ['\\', 't']
  | '\r' => ['\\', 'r']
  | '\n' => ['\\', 'n']
  | '"' => ['\\', '"']
  | '\\' => ['\\', '\\']
  | c => if isUnprintable c then ['\\', 'u', '\x7b'] ++ hexText c.toNat ++ ['\x7d'] else [c]

def quoted (text : String) : String :=
  "\"" ++ String.ofList (text.toList.flatMap quotedChar) ++ "\""

end TokenEcho.Text
