import TokenEcho.Toml.Parser

/-!
# Dates and times

A date, a time, or a date and a time with an optional offset. The day has to exist in its month; a
minute may have a sixtieth second.
-/

namespace TokenEcho.Toml

open TokenEcho.Toml.Parser

/-- A number of exactly so many digits within bounds. -/
def boundedDigits (count low high : Nat) : Parser Nat := do
  let digits ← exactly Char.isDigit count
  let n := digits.foldl (fun n c => n * 10 + (c.toNat - 48)) 0
  if low ≤ n && n ≤ high then return n else failure

def isLeapYear (year : Nat) : Bool := year % 4 == 0 && (year % 100 != 0 || year % 400 == 0)

def daysIn (year month : Nat) : Nat :=
  if month == 2 then if isLeapYear year then 29 else 28
  else if month ∈ [4, 6, 9, 11] then 30
  else 31

def date : Parser Unit := do
  let year ← boundedDigits 4 0 9999
  char '-'
  let month ← boundedDigits 2 1 12
  char '-'
  discard (boundedDigits 2 1 (daysIn year month))

def hourAndMinute : Parser Unit := do
  discard (boundedDigits 2 0 23)
  char ':'
  discard (boundedDigits 2 0 59)

def time : Parser Unit := do
  hourAndMinute
  char ':'
  discard (boundedDigits 2 0 60)
  let fraction : Parser Unit := char '.' *> satisfy Char.isDigit *> discard (takeWhile Char.isDigit)
  discard (optional fraction)

def timeOffset : Parser Unit :=
  discard (satisfy fun c => c == 'Z' || c == 'z') <|>
    (satisfy (fun c => c == '+' || c == '-') *> hourAndMinute)

def moment : Parser Unit :=
  let isDelimiter : Char → Bool := fun c => c == 'T' || c == 't' || c == ' '
  (date *> discard (optional (satisfy isDelimiter *> time *> optional timeOffset))) <|> time

end TokenEcho.Toml
