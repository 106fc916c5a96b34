import Phrasebook.Text.Classes

/-!
# Integers in decimal notation

`decimalDigits` writes a natural number, `digitsValue` reads one; reading what was written gives
the number back (`digitsValue_decimalDigits`). On top of them stand the notation of integers and
the reading of 64-bit integers with an optional sign.
-/

namespace Phrasebook

/-! ## Digits -/

/-- The character of a digit below ten. -/
def digitChar (d : Nat) : Char := Char.ofNat (48 + d)

/-- The value of a digit character. -/
def digitValue (c : Char) : Nat := c.toNat - 48

/-- The decimal digits of a natural number, without leading zeros. -/
def decimalDigits (n : Nat) : List Char :=
  if _h : n < 10 then [digitChar n] else decimalDigits (n / 10) ++ [digitChar (n % 10)]
termination_by n

/-- Value of decimal digits. -/
def digitsValue (digits : List Char) : Nat :=
  digits.foldl (fun n d => n * 10 + digitValue d) 0

theorem digitValue_digitChar {d : Nat} (h : d < 10) : digitValue (digitChar d) = d := by
  have : d = 0 ∨ d = 1 ∨ d = 2 ∨ d = 3 ∨ d = 4 ∨ d = 5 ∨ d = 6 ∨ d = 7 ∨ d = 8 ∨ d = 9 := by omega
  rcases this with rfl | rfl | rfl | rfl | rfl | rfl | rfl | rfl | rfl | rfl <;> rfl

theorem isDigit_digitChar {d : Nat} (h : d < 10) : isDigit (digitChar d) = true := by
  have : d = 0 ∨ d = 1 ∨ d = 2 ∨ d = 3 ∨ d = 4 ∨ d = 5 ∨ d = 6 ∨ d = 7 ∨ d = 8 ∨ d = 9 := by omega
  rcases this with rfl | rfl | rfl | rfl | rfl | rfl | rfl | rfl | rfl | rfl <;> rfl

theorem digitsValue_append (ds : List Char) (d : Char) :
    digitsValue (ds ++ [d]) = digitsValue ds * 10 + digitValue d := by
  simp [digitsValue]

/-- Reading the written digits gives the number back. -/
theorem digitsValue_decimalDigits (n : Nat) : digitsValue (decimalDigits n) = n := by
  induction n using decimalDigits.induct with
  | case1 n h => rw [decimalDigits, dif_pos h]; simp [digitsValue, digitValue_digitChar h]
  | case2 n h ih =>
    rw [decimalDigits, dif_neg h, digitsValue_append, ih,
      digitValue_digitChar (Nat.mod_lt n (by decide))]
    omega

theorem isDigit_of_mem_decimalDigits {n : Nat} {c : Char} (h : c ∈ decimalDigits n) :
    isDigit c = true := by
  induction n using decimalDigits.induct with
  | case1 n hn =>
    rw [decimalDigits, dif_pos hn] at h
    simp at h
    exact h ▸ isDigit_digitChar hn
  | case2 n hn ih =>
    rw [decimalDigits, dif_neg hn] at h
    simp at h
    rcases h with h | h
    · exact ih h
    · exact h ▸ isDigit_digitChar (Nat.mod_lt n (by decide))

theorem decimalDigits_ne_nil (n : Nat) : decimalDigits n ≠ [] := by
  rw [decimalDigits]
  split <;> simp

/-! ## Integers -/

/-- The decimal notation of a natural number. -/
def natText (n : Nat) : String := String.ofList (decimalDigits n)

/-- The decimal notation of an integer as characters. -/
def intChars (n : Int) : List Char :=
  if n < 0 then '-' :: decimalDigits n.natAbs else decimalDigits n.natAbs

/-- The decimal notation of an integer. -/
def intText (n : Int) : String := String.ofList (intChars n)

/-- Smallest 64-bit integer. -/
def int64Min : Int := -9223372036854775808

/-- Largest 64-bit integer. -/
def int64Max : Int := 9223372036854775807

/-- The 64-bit integer, unless the number is out of range. -/
def int64OfInt? (n : Int) : Option Int64 :=
  if int64Min ≤ n ∧ n ≤ int64Max then some (Int64.ofInt n) else none

/-- The number that a sign and digits stand for. -/
def signedValue (negative : Bool) (digits : List Char) : Int :=
  if negative then -(digitsValue digits : Int) else digitsValue digits

/-- Reads digits that fill the whole text and fit into 64 bits. -/
def readDigits? (negative : Bool) (cs : List Char) : Option Int64 :=
  if !cs.isEmpty && cs.all isDigit then int64OfInt? (signedValue negative cs) else none

/-- Reads a 64-bit integer: digits with an optional sign. -/
def readInt64? : List Char → Option Int64
  | '+' :: cs => readDigits? false cs
  | '-' :: cs => readDigits? true cs
  | cs => readDigits? false cs

end Phrasebook
