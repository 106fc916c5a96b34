import Phrasebook.Pack.Text

/-!
# Writing bits

A writer collects bits into bytes. It keeps the complete bytes, the byte that is being written, and
how many bits are written of it; what is not yet written is zero. `PackWriter.bits` is all that was
written so far.

Integers are numbered in their class with 64-bit arithmetic. A step that overflows leaves no writer.
-/

namespace Phrasebook

/-! ## Bits of a byte -/

/-- Sets a bit of the byte if the value is set. The most significant bit has the index zero. -/
def orBit (byte : UInt8) (index : Nat) (value : Bool) : UInt8 :=
  byte ||| value.toUInt8 <<< UInt8.ofNat (7 - index)

theorem testBit_orBit {index : Nat} (h : index < 8) (byte : UInt8) (value : Bool) (i : Nat) :
    (orBit byte index value).toNat.testBit i =
      (byte.toNat.testBit i || (value && decide (i = 7 - index))) := by
  have hshift : (UInt8.ofNat (7 - index)).toNat % 8 = 7 - index := by
    rw [UInt8.toNat_ofNat']
    omega
  rw [orBit, UInt8.toNat_or, Nat.testBit_or, UInt8.toNat_shiftLeft, hshift]
  cases value with
  | false => simp [Bool.toUInt8]
  | true =>
    have hlt : 1 <<< (7 - index) < 2 ^ 8 := by
      rw [Nat.one_shiftLeft]
      exact Nat.pow_lt_pow_right (by decide) (by omega)
    have hone : (Bool.toUInt8 true).toNat = 1 := rfl
    rw [hone, Nat.mod_eq_of_lt hlt, Nat.one_shiftLeft, Nat.testBit_two_pow]
    simp [eq_comm]

/-- The bits of the byte behind the first ones are zero. -/
def ClearBehind (byte : UInt8) (used : Nat) : Prop :=
  ∀ i < 8 - used, byte.toNat.testBit i = false

theorem clearBehind_zero (used : Nat) : ClearBehind 0 used := fun i _ => Nat.zero_testBit i

theorem ClearBehind.orBit {byte : UInt8} {used : Nat} (h : ClearBehind byte used) (hu : used < 8)
    (value : Bool) : ClearBehind (orBit byte used value) (used + 1) := by
  intro i hi
  rw [testBit_orBit hu, h i (by omega)]
  have hne : i ≠ 7 - used := by omega
  simp [hne]

/-! ## Writers -/

/-- Bits collected into bytes. -/
structure PackWriter where
  /-- The complete bytes. -/
  bytes : Array UInt8 := #[]
  /-- The byte behind them, as far as it is written. -/
  current : UInt8 := 0
  /-- Number of bits written of that byte. -/
  used : Nat := 0
  /-- A byte with eight bits is complete. -/
  used_lt : used < 8 := by decide
  /-- Bits that are not yet written are zero. -/
  clear : ClearBehind current used := by exact clearBehind_zero _

namespace PackWriter

/-- Writes a bit. -/
def writeBool (value : Bool) (writer : PackWriter) : PackWriter :=
  let current := orBit writer.current writer.used value
  if h : writer.used + 1 = 8 then { bytes := writer.bytes.push current }
  else
    { bytes := writer.bytes
      current
      used := writer.used + 1
      used_lt := Nat.lt_of_le_of_ne writer.used_lt h
      clear := writer.clear.orBit writer.used_lt value }

/-- Writes bits in order. -/
def writeAll (bits : Bits) (writer : PackWriter) : PackWriter :=
  bits.foldl (fun writer bit => writer.writeBool bit) writer

/-- Writes the lowest bits of a word, the most significant one first. -/
def writeBits : (width : Nat) → UInt64 → PackWriter → PackWriter
  | 0, _, writer => writer
  | width + 1, value, writer =>
    (writer.writeBool ((value >>> .ofNat width) &&& 1 == 1)).writeBits width value

/-- Completes the byte with zeros, unless nothing is written of it. -/
def align (writer : PackWriter) : PackWriter :=
  if writer.used = 0 then writer else { bytes := writer.bytes.push writer.current }

/-- Writes bytes from the beginning of the next byte on. -/
def writeBytes (bytes : List UInt8) (writer : PackWriter) : PackWriter :=
  { writer.align with bytes := writer.align.bytes ++ bytes }

/-- All bytes, the last one completed with zeros. -/
def finish (writer : PackWriter) : List UInt8 := writer.align.bytes.toList

/-- All bits written so far. -/
def bits (writer : PackWriter) : Bits :=
  bitsOfBytes writer.bytes.toList ++ (bitsOf 8 writer.current.toNat).take writer.used

end PackWriter

/-! ## Integers, counts and texts -/

/-- The number of a value in the class as a 64-bit integer. There is none if a step that leads to it
    overflows: the difference to the first member, or its negation in a class that descends. -/
def IntegerClass.offset? (c : IntegerClass) (value : Int64) : Option Int64 :=
  if c.ascending then int64OfInt? (value.toInt - c.first)
  else (int64OfInt? (value.toInt - c.first)).bind fun distance => int64OfInt? (-distance.toInt)

namespace PackWriter

/-- Writes an integer: the mark of its class and its number there. -/
def writeInteger (value : Int64) (writer : PackWriter) : Option PackWriter :=
  (IntegerClass.all.find? fun c => (c.number? value.toInt).isSome).bind fun c =>
    (c.offset? value).map fun offset => (writer.writeAll c.mark).writeBits c.width offset.toUInt64

/-- Writes a count. -/
def writeCount (count : Nat) (writer : PackWriter) : Option PackWriter :=
  if count < 8 then some (writer.writeBits 4 (.ofNat count))
  else if count < 16 then some (writer.writeBits 5 (0b10000 ||| .ofNat (count - 8)))
  else (writer.writeBits 2 0b11).writeInteger (.ofNat count)

/-- Writes the length of a text. -/
def writeLength (length : Nat) (writer : PackWriter) : Option PackWriter :=
  if length < 16 then some (writer.writeBits 6 (0b010000 ||| .ofNat length))
  else if length < 256 then some (writer.writeBits 10 (0b1000000000 ||| .ofNat length))
  else (writer.writeBits 2 0b11).writeInteger (.ofNat length)

/-- Writes a text that may be absent. -/
def writeText (text : Option String) (writer : PackWriter) : Option PackWriter :=
  match text with
  | none => some (writer.writeBits 2 0)
  | some text =>
    let bytes := utf8Bytes text
    (writer.writeLength bytes.length).map fun writer =>
      if bytes.isEmpty then writer else writer.writeBytes bytes

end PackWriter

end Phrasebook
