import Phrasebook.Pack.Layout
import Phrasebook.Pack.Reader

/-!
# Packed integers

A 64-bit integer belongs to one of nine classes. A class has a mark, and numbers its members from its
first one on, upwards or downwards, with a fixed number of bits. Small integers need few bits: five
for those from -8 to 7.

No mark begins another one, and every sequence of six bits begins with a mark. Counts have two
shorter forms in front.
-/

namespace Phrasebook

/-- A class of integers that are packed alike. -/
structure IntegerClass where
  /-- The bits in front. -/
  mark : Bits
  /-- Number of bits for a member. -/
  width : Nat
  /-- The member with the number zero. -/
  first : Int
  /-- Members with higher numbers are greater. -/
  ascending : Bool
deriving DecidableEq, Repr

namespace IntegerClass

/-- All classes. Their marks are tried in this order. -/
def all : List IntegerClass :=
  [⟨[false, false], 3, 0, true⟩,
    ⟨[false, true], 3, -8, true⟩,
    ⟨[true, false, false], 7, 8, true⟩,
    ⟨[true, false, true], 10, -1032, true⟩,
    ⟨[true, true, false], 10, 136, true⟩,
    ⟨[true, true, true, false], 17, 1160, true⟩,
    ⟨[true, true, true, true, false], 63, 132232, true⟩,
    ⟨[true, true, true, true, true, false], 17, -132104, true⟩,
    ⟨[true, true, true, true, true, true], 63, -132105, false⟩]

/-- The member with a number. -/
def member (c : IntegerClass) (number : Nat) : Int :=
  if c.ascending then c.first + number else c.first - number

/-- The number of a member. -/
def number? (c : IntegerClass) (value : Int) : Option Nat :=
  let number := if c.ascending then value - c.first else c.first - value
  if 0 ≤ number ∧ number < (1 <<< c.width : Nat) then some number.toNat else none

/-- The bits of a value, if it belongs to the class. -/
def bits? (c : IntegerClass) (value : Int) : Option Bits :=
  (c.number? value).map fun number => c.mark ++ bitsOf c.width number

theorem member_of_number? {c : IntegerClass} {value : Int} {number : Nat}
    (h : c.number? value = some number) : c.member number = value ∧ number < 1 <<< c.width := by
  simp only [number?, Option.ite_none_right_eq_some, Option.some.injEq] at h
  obtain ⟨⟨h1, h2⟩, rfl⟩ := h
  refine ⟨?_, ?_⟩
  · simp only [member, Int.toNat_of_nonneg h1]
    cases c.ascending <;> simp only [Bool.false_eq_true, if_true, if_false] <;> omega
  · have := Int.toNat_of_nonneg h1
    exact_mod_cast this ▸ h2

end IntegerClass

/-- The bits of an integer. -/
def integerBits (value : Int64) : Bits :=
  (IntegerClass.all.findSome? fun c => c.bits? value.toInt).getD []

/-- The bits of a count. -/
def countBits (count : Nat) : Bits :=
  if count < 8 then bitsOf 4 count
  else if count < 16 then [true, false] ++ bitsOf 3 (count - 8)
  else [true, true] ++ integerBits (.ofNat count)

namespace PackReader

/-- Reads the mark of a class. -/
def readClass : PackReader IntegerClass := do
  let source ← get
  match IntegerClass.all.find? fun c => c.mark.isPrefixOf source.rest with
  | some c =>
    let _ ← takeBits c.mark.length
    return c
  | none => do
    let _ ← takeBits (source.rest.length + 1)
    throw .unexpectedEnd

/-- Reads an integer. -/
def readInteger : PackReader Int64 := do
  let c ← readClass
  let number ← readBits c.width
  match int64OfInt? (c.member number) with
  | some value => return value
  | none => refuse .integerOutOfRange

/-- Reads a count. -/
def readCount : PackReader Nat := do
  if !(← readBool) then readBits 3
  else if !(← readBool) then return (← readBits 3) + 8
  else
    let value ← readInteger
    if value.toInt < 0 then refuse (.negativeCount value) else return value.toInt.toNat

end PackReader

end Phrasebook
