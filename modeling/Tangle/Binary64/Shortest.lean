/-
This file writes binary64 numbers with the fewest decimal digits that read back
as the same number; among those, with the digits nearest to it.
-/

import Tangle.Binary64

namespace Tangle.Binary64

/-- A positive decimal `digits · 10 ^ exponent`. -/
structure Decimal where
  digits : Nat
  exponent : Int
deriving DecidableEq

/-- The power of ten as a quotient. -/
def powerOfTen (exponent : Int) : Nat × Nat :=
  if 0 ≤ exponent then (Nat.pow 10 exponent.toNat, 1) else (1, Nat.pow 10 (-exponent).toNat)

/-- Four times a finite magnitude as a quotient; quarters of the last binary place are whole. -/
def quadruple (mantissa : Nat) (exponent : Int) : Nat × Nat :=
  scaled (4 * mantissa) 1 (-exponent)

/-- The decimals that read as `mantissa · 2 ^ exponent` lie between two bounds, given here four
times over. Below a power of two the neighbour is nearer. -/
def bounds (mantissa : Nat) (exponent : Int) : Nat × Nat × Nat :=
  let below := if mantissa = leastMantissa && leastExponent < exponent then 1 else 2
  let (low, unit) := scaled (4 * mantissa - below) 1 (-exponent)
  let (high, _) := scaled (4 * mantissa + 2) 1 (-exponent)
  (low, high, unit)

/-- Whether a decimal reads as `mantissa · 2 ^ exponent`. The bounds themselves do when the
mantissa is even. -/
def readsBack (mantissa : Nat) (exponent : Int) (decimal : Decimal) : Bool :=
  let (low, high, unit) := bounds mantissa exponent
  let (up, down) := powerOfTen decimal.exponent
  let value := 4 * decimal.digits * up * unit
  if mantissa % 2 = 0 then low * down ≤ value && value ≤ high * down
  else low * down < value && value < high * down

/-- The number `n` for which a magnitude lies in `10 ^ (n - 1)` to `10 ^ n`, found by looking
upwards from a power that is too small. -/
def decimalPoint (numerator denominator : Nat) : (fuel : Nat) → (guess : Int) → Int
  | 0, guess => guess
  | fuel + 1, guess =>
    let (up, down) := powerOfTen guess
    if numerator * down < up * denominator then guess
    else decimalPoint numerator denominator fuel (guess + 1)

/-- The best decimal of `width` digits: of the two neighbours on that grid, one that reads back,
the nearer one if both do, the even one if both are as near. -/
def best? (mantissa : Nat) (exponent point : Int) (width : Nat) : Option Decimal :=
  let grid := point - width
  let (numerator, denominator) := quadruple mantissa exponent
  let (up, down) := powerOfTen grid
  let top := numerator * down
  let bottom := 4 * denominator * up
  let floor := top / bottom
  let lower : Decimal := ⟨floor, grid⟩
  let upper : Decimal := ⟨floor + 1, grid⟩
  match readsBack mantissa exponent lower, readsBack mantissa exponent upper with
  | true, true => if roundDiv top bottom = floor then some lower else some upper
  | true, false => some lower
  | false, true => some upper
  | false, false => none

/-- The first width from `width` on that has a decimal; seventeen digits always suffice. -/
def search (mantissa : Nat) (exponent point : Int) : (fuel width : Nat) → Decimal
  | 0, _ => ⟨0, 0⟩
  | fuel + 1, width =>
    match best? mantissa exponent point width with
    | some decimal => decimal
    | none => search mantissa exponent point fuel (width + 1)

/-- The shortest decimal of a positive magnitude, with the place of its decimal point. -/
def shortest (mantissa : Nat) (exponent : Int) : Nat × Int :=
  let (numerator, denominator) := scaled mantissa 1 (-exponent)
  let start : Int := ((numerator.log2 : Int) - (denominator.log2 : Int)) * 30103 / 100000 - 2
  let point := decimalPoint numerator denominator 8 start
  let decimal := search mantissa exponent point 17 1
  (decimal.digits, decimal.exponent + decimalWidth decimal.digits)

/-- The digits without the zeros at their end, which add nothing behind a decimal point. -/
def significant (digits : Nat) : List Char :=
  match ((Nat.toDigits 10 digits).reverse.dropWhile (· == '0')).reverse with
  | [] => ['0']
  | kept => kept

/-- Exponents are written with a sign and at least two digits. -/
def exponentText (exponent : Int) : List Char :=
  let digits := Nat.toDigits 10 exponent.natAbs
  (if exponent < 0 then '-' else '+') :: (if digits.length < 2 then '0' :: digits else digits)

/-- Writes digits with the decimal point `point` places behind the start: positionally from
`0.0001` up to sixteen digits before the point, with an exponent elsewhere. A whole number keeps
one zero behind its point. -/
def layOut (digits : List Char) (point : Int) : List Char :=
  if point < -3 || 16 < point then
    let mantissa := match digits with
      | first :: second :: rest => first :: '.' :: second :: rest
      | few => few
    mantissa ++ 'e' :: exponentText (point - 1)
  else if point ≤ 0 then '0' :: '.' :: List.replicate (-point).toNat '0' ++ digits
  else
    let whole := digits.take point.toNat
    let behind := digits.drop point.toNat
    whole ++ List.replicate (point.toNat - whole.length) '0' ++
      '.' :: (if behind.isEmpty then ['0'] else behind)

/-- The digits and sign of a finite number. -/
def finiteText (negative : Bool) (mantissa : Nat) (exponent : Int) : List Char :=
  let magnitude :=
    if mantissa = 0 then ['0', '.', '0']
    else
      let (digits, point) := shortest mantissa exponent
      layOut (significant digits) point
  if negative then '-' :: magnitude else magnitude

/-- The words for the numbers that are not finite. -/
structure Words where
  nan : String
  infinity : String

/-- The text of a number, with the given words for those that are not finite. -/
def text (words : Words) : Binary64 → List Char
  | nan => words.nan.toList
  | infinity negative =>
    if negative then '-' :: words.infinity.toList else words.infinity.toList
  | finite negative mantissa exponent => finiteText negative mantissa exponent

end Tangle.Binary64
