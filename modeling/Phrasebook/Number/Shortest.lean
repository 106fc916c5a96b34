import Phrasebook.Number.Floating
import Phrasebook.Number.Integer

/-!
# Floating point numbers in decimal notation: writing

A number is written with the fewest digits that read back as the number; of several such decimals
the nearest is taken, and of two equally near ones the larger. Notation is positional: no exponent,
and no point behind a whole number.
-/

namespace Phrasebook

namespace FloatFormat

/-- The interval of quotients that round to a positive number, with the number itself, all in
    quarters of its unit; the unit is two to the power of the exponent. -/
structure RoundingInterval where
  /-- Lower end. -/
  low : Nat
  /-- The number. -/
  value : Nat
  /-- Upper end. -/
  high : Nat
  /-- The ends belong to the interval. -/
  closed : Bool
deriving DecidableEq, Repr

/-- The interval around a positive number of the format. Below a power of two the numbers lie
    closer together, unless they have the least exponent. -/
def intervalAround (f : FloatFormat) (significand : Nat) (exponent : Int) : RoundingInterval :=
  let below := if significand = f.leastNormal ∧ f.minExponent < exponent then 1 else 2
  ⟨4 * significand - below, 4 * significand, 4 * significand + 2, significand % 2 = 0⟩

/-- Tells whether a quotient lies in an interval. -/
def RoundingInterval.holds (i : RoundingInterval) (num den : Nat) : Bool :=
  if i.closed then i.low * den ≤ num && num ≤ i.high * den
  else i.low * den < num && num < i.high * den

/-- Decimal digits and the place of the point: `0.digits` times ten to the power of `point`. -/
structure DecimalDigits where
  /-- The digits as a number. -/
  digits : Nat
  /-- How many digits there are. -/
  count : Nat
  /-- Digits in front of the point. -/
  point : Int
deriving DecidableEq, Repr

/-- The decimal with `count` digits in the interval that is nearest to its number. The quarter of
    the unit is `num / den`, and the number is below ten to the power of `point`. -/
def nearestWith (i : RoundingInterval) (num den : Nat) (point : Int) (count : Nat) :
    Option DecimalDigits :=
  -- the number in units of the last digit is `value * num / (den * scale)`
  let shift : Int := point - count
  let (top, bottom) :=
    if 0 ≤ shift then (num, den * Nat.pow 10 shift.toNat)
    else (num * Nat.pow 10 (-shift).toNat, den)
  let lower := i.value * top / bottom
  let upper := lower + 1
  let inside (n : Nat) : Bool := i.holds (n * bottom) top
  let nearer : Bool := 2 * (i.value * top) < (lower + upper) * bottom
  if inside lower && (nearer || !inside upper) then some ⟨lower, count, point⟩
  else if inside upper then some ⟨upper, count, point⟩
  else none

/-- The first count of digits, from `count` on, for which the interval holds a decimal. -/
def shortestFrom (i : RoundingInterval) (num den : Nat) (point : Int) :
    (tries count : Nat) → DecimalDigits
  | 0, count => ⟨i.value * num / den, count, point⟩
  | tries + 1, count =>
    match nearestWith i num den point count with
    | some d => d
    | none => shortestFrom i num den point tries (count + 1)

/-- Digits in front of the decimal point of a quotient that is not zero; negative where zeros
    follow the point. -/
def pointOf (num den : Nat) : Int :=
  if den ≤ num then (decimalDigits (num / den)).length
  else 1 - (decimalDigits ((den - 1) / num)).length

/-- Digits that suffice for every number of the formats with up to 64 bits. -/
def digitLimit : Nat := 17

/-- The fewest digits of a positive number of the format. -/
def shortestDigits (f : FloatFormat) (significand : Nat) (exponent : Int) : DecimalDigits :=
  let (num, den) :=
    if 2 ≤ exponent then (1 <<< (exponent - 2).toNat, 1) else (1, 1 <<< (2 - exponent).toNat)
  let i := f.intervalAround significand exponent
  shortestFrom i num den (pointOf (i.value * num) den) digitLimit 1

/-- Digits in positional notation. -/
def positional (d : DecimalDigits) : List Char :=
  let written := decimalDigits d.digits
  -- a digit more than counted stands in front of the point
  let point := d.point + ((written.length : Int) - d.count)
  let digits := (written.reverse.dropWhile (· == '0')).reverse
  if point ≤ 0 then '0' :: '.' :: List.replicate (-point).toNat '0' ++ digits
  else if (digits.length : Int) ≤ point then
    digits ++ List.replicate (point.toNat - digits.length) '0'
  else digits.take point.toNat ++ '.' :: digits.drop point.toNat

/-- The text of a number of the format. -/
def text (f : FloatFormat) : Floating → String
  | .nan => "NaN"
  | .infinite negative => if negative then "-inf" else "inf"
  | .finite negative significand exponent =>
    let magnitude :=
      if significand = 0 then ['0'] else positional (f.shortestDigits significand exponent)
    String.ofList (if negative then '-' :: magnitude else magnitude)

end FloatFormat

end Phrasebook
