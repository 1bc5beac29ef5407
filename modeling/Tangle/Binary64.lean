/-
This file holds the numbers of the binary64 format as plain data and reads them
from decimal notation. All arithmetic is exact arithmetic on natural numbers:
reading rounds the quotient of two of them once, to the nearest number of the
format, a tie going to the even mantissa.
-/

namespace Tangle

/-- A number of the binary64 format. A finite one is `± mantissa · 2 ^ exponent`, where the
mantissa has 53 bits or the exponent is the least one. -/
inductive Binary64 where
  | nan
  | infinity (negative : Bool)
  | finite (negative : Bool) (mantissa : Nat) (exponent : Int)
deriving DecidableEq

namespace Binary64

/-- The least mantissa of 53 bits. -/
def leastMantissa : Nat := Nat.pow 2 52

/-- The exponent of the smallest numbers. -/
def leastExponent : Int := -1074

/-- The exponent of the largest numbers. -/
def greatestExponent : Int := 971

/-- The quotient rounded to the nearest natural number, a tie to the even one. -/
def roundDiv (numerator denominator : Nat) : Nat :=
  let quotient := numerator / denominator
  let twice := 2 * (numerator % denominator)
  if twice < denominator then quotient
  else if denominator < twice then quotient + 1
  else quotient + quotient % 2

/-- `numerator / (denominator · 2 ^ exponent)` as a quotient of natural numbers. -/
def scaled (numerator denominator : Nat) (exponent : Int) : Nat × Nat :=
  if 0 ≤ exponent then (numerator, denominator * Nat.pow 2 exponent.toNat)
  else (numerator * Nat.pow 2 (-exponent).toNat, denominator)

/-- The exponent that leaves a mantissa of 53 bits, or the least exponent for smaller numbers. -/
def fittingExponent (numerator denominator : Nat) : Int :=
  let guess : Int := (numerator.log2 : Int) - (denominator.log2 : Int) - 52
  let (top, bottom) := scaled numerator denominator guess
  let exact := if top / bottom < leastMantissa then guess - 1 else guess
  max leastExponent exact

/-- The number of the format nearest to a positive quotient. -/
def ofQuotient (negative : Bool) (numerator denominator : Nat) : Binary64 :=
  let exponent := fittingExponent numerator denominator
  let (top, bottom) := scaled numerator denominator exponent
  let mantissa := roundDiv top bottom
  let (mantissa, exponent) :=
    if mantissa = 2 * leastMantissa then (leastMantissa, exponent + 1) else (mantissa, exponent)
  if greatestExponent < exponent then infinity negative else finite negative mantissa exponent

/-- The number of decimal digits of a natural number. -/
def decimalWidth (n : Nat) : Nat := (Nat.toDigits 10 n).length

/-- The number of the format nearest to `± digits · 10 ^ exponent`. Far outside the range of the
format the power of ten is not computed. -/
def ofDecimal (negative : Bool) (digits : Nat) (exponent : Int) : Binary64 :=
  if digits = 0 then finite negative 0 leastExponent
  else if exponent + decimalWidth digits < -330 then finite negative 0 leastExponent
  else if 310 < exponent + decimalWidth digits then infinity negative
  else if 0 ≤ exponent then ofQuotient negative (digits * Nat.pow 10 exponent.toNat) 1
  else ofQuotient negative digits (Nat.pow 10 (-exponent).toNat)

end Binary64

end Tangle
