/-!
# Doubles

A finite double is a sign, a whole number below `2 ^ 53` and a power of two. A decimal is rounded to
the nearest double, and a tie goes to the even one.
-/

namespace TokenEcho

/-- A number that a double can hold: `mantissa * 2 ^ exponent` with its sign, or none at all. -/
inductive Binary64 where
  | finite (negative : Bool) (mantissa : Nat) (exponent : Int)
  | infinite (negative : Bool)
  | nan
deriving DecidableEq, Inhabited

namespace Binary64

def precision : Nat := 53

def leastFull : Nat := Nat.pow 2 (precision - 1)

def minExponent : Int := -1074

def maxExponent : Int := 971

/-- A quotient rounded to the nearest whole number, ties to even. -/
def roundDiv (num den : Nat) : Nat :=
  let q := num / den
  let r := num % den
  if 2 * r > den || (2 * r == den && q % 2 == 1) then q + 1 else q

/-- A power of an integer exponent as a quotient. -/
def powRatio (base : Nat) (exponent : Int) : Nat × Nat :=
  if 0 ≤ exponent then (base.pow exponent.toNat, 1) else (1, base.pow (-exponent).toNat)

/-- The double nearest to a positive quotient. -/
def ofRatio (negative : Bool) (num den : Nat) : Binary64 :=
  let guess : Int := (Nat.log2 num : Int) - Nat.log2 den - (precision - 1 : Nat)
  let scaled (exponent : Int) : Nat × Nat :=
    let (up, down) := powRatio 2 exponent
    (num * down, den * up)
  let (n, d) := scaled guess
  let exponent := max minExponent (if n < d * leastFull then guess - 1 else guess)
  let (n, d) := scaled exponent
  let mantissa := roundDiv n d
  let (mantissa, exponent) :=
    if mantissa = 2 * leastFull then (leastFull, exponent + 1) else (mantissa, exponent)
  if exponent > maxExponent then infinite negative else finite negative mantissa exponent

/-- The double nearest to `digits * 10 ^ exponent`. Decimals far out of range are not computed. -/
def ofDecimal (negative : Bool) (digits : Nat) (exponent : Int) : Binary64 :=
  let magnitude : Int := (Nat.repr digits).length + exponent
  if digits = 0 || magnitude < -330 then finite negative 0 minExponent
  else if magnitude > 310 then infinite negative
  else
    let (up, down) := powRatio 10 exponent
    ofRatio negative (digits * up) down

end Binary64

end TokenEcho
