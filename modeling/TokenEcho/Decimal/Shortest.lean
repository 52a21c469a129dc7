import TokenEcho.Decimal.Binary64

/-!
# The shortest decimals of doubles

A double is written with the fewest digits that read back as the same double. Of two such decimals
the nearer one is taken, and the greater one if both are as near. The text never has an exponent.
-/

namespace TokenEcho.Binary64

def maxPower : Nat := 309

/-- The number of powers of ten, from the greatest one down, that are tried. -/
def powerCount : Nat := 653

/-- The multiple of `10 ^ power` that reads back as `mantissa * 2 ^ exponent`, if there is one.
Places are measured in quarters of the last bit: what reads back lies within half of it, and below a
power of two within a quarter. -/
def decimalAt? (mantissa : Nat) (exponent : Int) (power : Int) : Option Nat :=
  let (twoUp, twoDown) := powRatio 2 (exponent - 2)
  let (tenUp, tenDown) := powRatio 10 power
  let place := fun quarters : Nat => quarters * twoUp * tenDown
  let below := if mantissa = leastFull && exponent > minExponent then 1 else 2
  let low := place (4 * mantissa - below)
  let mid := place (4 * mantissa)
  let high := place (4 * mantissa + 2)
  let step := tenUp * twoDown
  let reads := fun n : Nat =>
    if mantissa % 2 = 0 then decide (low ≤ n * step ∧ n * step ≤ high)
    else decide (low < n * step ∧ n * step < high)
  let lower := mid / step
  let upper := lower + 1
  match reads lower, reads upper with
  | true, true => some (if mid - lower * step < upper * step - mid then lower else upper)
  | true, false => some lower
  | false, true => some upper
  | false, false => none

def positional (digits : Nat) (power : Int) : String :=
  let text := Nat.repr digits
  if 0 ≤ power then text ++ "".pushn '0' power.toNat ++ ".0"
  else
    let places := (-power).toNat
    let padded := "".pushn '0' (places + 1 - text.length) ++ text
    let chars := padded.toList
    String.ofList (chars.take (chars.length - places)) ++ "." ++
      String.ofList (chars.drop (chars.length - places))

def magnitudeText (mantissa : Nat) (exponent : Int) : String :=
  if mantissa = 0 then "0.0"
  else
    let powers := (List.range powerCount).map fun n : Nat => (maxPower : Int) - (n : Int)
    let found := powers.findSome? fun power =>
      (decimalAt? mantissa exponent power).map fun digits => (digits, power)
    match found with
    | some (digits, power) => positional digits power
    | none => ""

def text : Binary64 → String
  | nan => "NaN"
  | infinite negative => if negative then "-inf" else "inf"
  | finite negative mantissa exponent =>
      (if negative then "-" else "") ++ magnitudeText mantissa exponent

end TokenEcho.Binary64
