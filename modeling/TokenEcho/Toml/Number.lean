import TokenEcho.Toml.Text

/-!
# Numbers

An underscore may stand between two digits. Integers have 64 bits, and those in another base no
sign. A float has a fraction or an exponent; one that is too great is refused unless it is negative.
-/

namespace TokenEcho.Toml

open TokenEcho.Toml.Parser

/-- Digits with underscores between them. -/
def digits (p : Char → Bool) : Parser (List Char) :=
  separated (satisfy p) (discard (optional (char '_')))

def sign : Parser Bool :=
  (char '-' *> pure true) <|> (char '+' *> pure false) <|> pure false

def plainDigits : Parser (List Char) := (char '0' *> pure ['0']) <|> digits Char.isDigit

/-- An integer in another base, after its letter. -/
def basedInteger (letter : Char) (base : Nat) (p : Char → Bool) : Parser Int := do
  chars ['0', letter]
  return ofDigits base (← digits p)

def decimalInteger : Parser Int := do
  let negative ← sign
  let n := ofDigits 10 (← plainDigits)
  return if negative then -n else n

def integer : Parser Int := do
  let n ← basedInteger 'x' 16 isHexDigit <|> basedInteger 'o' 8 (fun c => '0' ≤ c && c ≤ '7') <|>
    basedInteger 'b' 2 (fun c => c == '0' || c == '1') <|> decimalInteger
  if Int64.minValue.toInt ≤ n && n ≤ Int64.maxValue.toInt then return n else failure

def fraction : Parser (List Char) := char '.' *> digits Char.isDigit

def exponent : Parser Int := do
  discard (satisfy fun c => c == 'e' || c == 'E')
  let negative ← sign
  let n := ofDigits 10 (← digits Char.isDigit)
  return if negative then -n else n

def decimalFloat : Parser Binary64 := do
  let negative ← sign
  let whole ← plainDigits
  let places ← optional fraction
  let power ← optional exponent
  if places.isNone && power.isNone then failure
  let places := places.getD []
  let x := Binary64.ofDecimal negative (ofDigits 10 (whole ++ places))
    (power.getD 0 - places.length)
  if x = .infinite false then failure else return x

def namedFloat : Parser Binary64 := do
  let negative ← sign
  (chars ['i', 'n', 'f'] *> pure (.infinite negative)) <|> (chars ['n', 'a', 'n'] *> pure .nan)

def float : Parser Binary64 := decimalFloat <|> namedFloat

end TokenEcho.Toml
