import Phrasebook.Number.Floating
import Phrasebook.Number.Integer
import Phrasebook.Text.Spacing

/-!
# Floating point numbers in decimal notation: reading

A number is written as a sign, digits with at most one point, and an exponent; all but the digits
may be missing. `inf`, `infinity` and `nan` are numbers too, in any case. Reading takes the number
of the format nearest to what is written.
-/

namespace Phrasebook

/-- What a decimal notation says: the digits as a natural number, times ten to a power. -/
structure DecimalNumber where
  /-- The digits without their point. -/
  digits : List Char
  /-- The power of ten. -/
  exponent : Int

/-- Reads a signed exponent that fills the text. -/
def readExponent? : List Char → Option Int
  | '+' :: cs => if cs.isEmpty || !cs.all isDigit then none else some (digitsValue cs)
  | '-' :: cs => if cs.isEmpty || !cs.all isDigit then none else some (-(digitsValue cs : Int))
  | cs => if cs.isEmpty || !cs.all isDigit then none else some (digitsValue cs)

/-- Reads digits with at most one point, and the exponent behind them. -/
def readDecimal? (cs : List Char) : Option DecimalNumber :=
  let whole := cs.takeWhile isDigit
  let rest := cs.dropWhile isDigit
  let (fraction, rest) :=
    match rest with
    | '.' :: rest => (rest.takeWhile isDigit, rest.dropWhile isDigit)
    | rest => ([], rest)
  if whole.isEmpty && fraction.isEmpty then none
  else
    match rest with
    | [] => some ⟨whole ++ fraction, -(fraction.length : Int)⟩
    | c :: rest =>
      if c == 'e' || c == 'E' then
        (readExponent? rest).map fun exponent =>
          ⟨whole ++ fraction, exponent - (fraction.length : Int)⟩
      else none

/-- Powers of ten beyond which every number of a format with 64 bits is zero or infinite. -/
def decimalReach : Int := 400

/-- The number of the format nearest to a decimal number with a sign. Numbers out of reach are
    decided by their size alone. -/
def FloatFormat.ofDecimal (f : FloatFormat) (negative : Bool) (d : DecimalNumber) : Floating :=
  let n := digitsValue d.digits
  let size : Int := (decimalDigits n).length + d.exponent
  if n = 0 then f.round negative 0 1
  else if size < -decimalReach then f.round negative 0 1
  else if decimalReach < size then .infinite negative
  else if 0 ≤ d.exponent then f.round negative (n * Nat.pow 10 d.exponent.toNat) 1
  else f.round negative n (Nat.pow 10 (-d.exponent).toNat)

/-- Reads a number without its sign. -/
def FloatFormat.readUnsigned? (f : FloatFormat) (negative : Bool) (cs : List Char) :
    Option Floating :=
  let word := String.ofList cs
  if eqIgnoringAsciiCase word "inf" || eqIgnoringAsciiCase word "infinity" then
    some (.infinite negative)
  else if eqIgnoringAsciiCase word "nan" then some .nan
  else (readDecimal? cs).map (f.ofDecimal negative)

/-- Reads a number of the format. -/
def FloatFormat.read? (f : FloatFormat) : List Char → Option Floating
  | '+' :: cs => f.readUnsigned? false cs
  | '-' :: cs => f.readUnsigned? true cs
  | cs => f.readUnsigned? false cs

end Phrasebook
