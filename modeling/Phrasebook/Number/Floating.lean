/-!
# Binary floating point numbers

A floating point number is an integer times a power of two, an infinity, or no number. A format
says how many bits the integer may have and how far the exponent may go. `FloatFormat.round`
takes the nearest number of a format to a quotient, a tie going to the even integer; it is the only
way in which numbers of a format arise, so decimal texts and integers are rounded alike.
-/

namespace Phrasebook

/-- A binary format, given by the sizes of its two fields. -/
structure FloatFormat where
  /-- Bits of the fraction field; a significand has one bit more. -/
  fractionBits : Nat
  /-- Bits of the exponent field. -/
  exponentBits : Nat
deriving DecidableEq, Repr

/-- A floating point number. -/
inductive Floating where
  /-- Not a number. -/
  | nan
  /-- An infinity. -/
  | infinite (negative : Bool)
  /-- The significand times two to the power of the exponent, with a sign. -/
  | finite (negative : Bool) (significand : Nat) (exponent : Int)
deriving DecidableEq, Repr, Inhabited

namespace FloatFormat

/-- The format with 32 bits. -/
def binary32 : FloatFormat := ⟨23, 8⟩

/-- The format with 64 bits. -/
def binary64 : FloatFormat := ⟨52, 11⟩

/-- Half of the range of the exponent field. -/
def bias (f : FloatFormat) : Nat := (1 <<< (f.exponentBits - 1)) - 1

/-- The exponent of the smallest positive number, whose significand is one. -/
def minExponent (f : FloatFormat) : Int := 1 - (f.bias : Int) - f.fractionBits

/-- The exponent of the largest finite number. -/
def maxExponent (f : FloatFormat) : Int := (f.bias : Int) - f.fractionBits

/-- The least significand that a number larger than the smallest ones has. -/
def leastNormal (f : FloatFormat) : Nat := 1 <<< f.fractionBits

/-- The quotient rounded to the nearest natural number, a tie to the even one. -/
def roundQuotient (num den : Nat) : Nat :=
  let q := num / den
  let r := num % den
  if 2 * r < den ∨ 2 * r = den ∧ q % 2 = 0 then q else q + 1

/-- The quotient divided by two to the power of an exponent, rounded. -/
def scaledQuotient (num den : Nat) (exponent : Int) : Nat :=
  if 0 ≤ exponent then roundQuotient num (den <<< exponent.toNat)
  else roundQuotient (num <<< (-exponent).toNat) den

/-- The exponent at which the integral part of the quotient fills the significand, no lower than
    the least one of the format. -/
def exponentFor (f : FloatFormat) (num den : Nat) : Int :=
  let low : Int := (num.log2 : Int) - den.log2 - f.fractionBits - 1
  let integral :=
    if 0 ≤ low then num / (den <<< low.toNat) else (num <<< (-low).toNat) / den
  max f.minExponent (if integral < 2 * f.leastNormal then low else low + 1)

/-- The number of the format nearest to a quotient of natural numbers with a sign. -/
def round (f : FloatFormat) (negative : Bool) (num den : Nat) : Floating :=
  if num = 0 then .finite negative 0 f.minExponent
  else
    let exponent := f.exponentFor num den
    let significand := scaledQuotient num den exponent
    let (significand, exponent) :=
      if significand = 2 * f.leastNormal then (f.leastNormal, exponent + 1)
      else (significand, exponent)
    if f.maxExponent < exponent then .infinite negative else .finite negative significand exponent

/-- The number of the format nearest to an integer. -/
def ofInt (f : FloatFormat) (n : Int) : Floating := f.round (decide (n < 0)) n.natAbs 1

/-- The number of the format nearest to a floating point number. -/
def convert (f : FloatFormat) : Floating → Floating
  | .nan => .nan
  | .infinite negative => .infinite negative
  | .finite negative significand exponent =>
    if 0 ≤ exponent then f.round negative (significand <<< exponent.toNat) 1
    else f.round negative significand (1 <<< (-exponent).toNat)

/-- The bits of a number of the format: sign, exponent field, fraction field. All that are no
    numbers share one pattern. -/
def bits (f : FloatFormat) (x : Floating) : Nat :=
  let sign (negative : Bool) := if negative then 1 <<< (f.fractionBits + f.exponentBits) else 0
  let special := ((1 <<< f.exponentBits) - 1) * f.leastNormal
  match x with
  | .nan => special + f.leastNormal / 2
  | .infinite negative => sign negative + special
  | .finite negative significand exponent =>
    if significand < f.leastNormal then sign negative + significand
    else
      sign negative + (exponent - f.minExponent).toNat * f.leastNormal + significand

end FloatFormat

namespace Floating

/-- Tells whether the number is one with a value of zero. -/
def isZero : Floating → Bool
  | finite _ significand _ => significand == 0
  | _ => false

/-- Tells whether this is not a number. -/
def isNaN : Floating → Bool
  | nan => true
  | _ => false

/-- A finite number in units of two to the power of an exponent no higher than its own. -/
def inUnits (unit : Int) (negative : Bool) (significand : Nat) (exponent : Int) : Int :=
  let magnitude : Int := (significand <<< (exponent - unit).toNat : Nat)
  if negative then -magnitude else magnitude

/-- Order of two numbers; what is not a number has none. -/
def compare? : Floating → Floating → Option Ordering
  | nan, _ => none
  | _, nan => none
  | infinite a, infinite b => some (compare b.toNat a.toNat)
  | infinite a, finite .. => some (if a then .lt else .gt)
  | finite .., infinite b => some (if b then .gt else .lt)
  | finite a m d, finite b n e =>
    let unit := min d e
    some (compare (inUnits unit a m d) (inUnits unit b n e))

end Floating

end Phrasebook
