/-!
# Bits and bytes

Packed data is a sequence of bits, the most significant one of each byte first. Numbers of a given
width are written in the same order; the bits of a byte string and the bytes of a bit string are
converses of each other (`bytesOfBits_bitsOfBytes`).
-/

namespace Phrasebook

/-- A sequence of bits. -/
abbrev Bits := List Bool

/-- The lowest bits of a number, the most significant one first. -/
def bitsOf : (width : Nat) → (value : Nat) → Bits
  | 0, _ => []
  | width + 1, value => value.testBit width :: bitsOf width value

/-- The number that bits stand for. -/
def bitsValue (bits : Bits) : Nat := bits.foldl (fun value bit => 2 * value + bit.toNat) 0

@[simp] theorem length_bitsOf (width value : Nat) : (bitsOf width value).length = width := by
  induction width with
  | zero => rfl
  | succ width ih => simp [bitsOf, ih]

theorem foldl_bitsOf (width value start : Nat) :
    (bitsOf width value).foldl (fun n bit => 2 * n + bit.toNat) start =
      (start <<< width) + value % (1 <<< width) := by
  rw [Nat.shiftLeft_eq, Nat.one_shiftLeft]
  induction width generalizing start with
  | zero => simp [bitsOf, Nat.mod_one]
  | succ width ih =>
    have h : value % 2 ^ (width + 1) =
        value % 2 ^ width + 2 ^ width * (value.testBit width).toNat := by
      rw [Nat.mod_pow_succ, Nat.toNat_testBit]
    rw [bitsOf, List.foldl_cons, ih, h, Nat.pow_succ, Nat.add_mul, Nat.mul_comm 2 start,
      Nat.mul_assoc, Nat.mul_comm 2 (2 ^ width), Nat.mul_comm (2 ^ width) (Bool.toNat _)]
    omega

/-- Reading written bits gives the number back, as far as the width reaches. -/
theorem bitsValue_bitsOf (width value : Nat) :
    bitsValue (bitsOf width value) = value % (1 <<< width) := by
  simp [bitsValue, foldl_bitsOf]

/-! ## Bytes -/

/-- The bits of bytes. -/
def bitsOfBytes (bytes : List UInt8) : Bits := bytes.flatMap fun byte => bitsOf 8 byte.toNat

/-- The byte of eight bits. -/
def byteOfBits (bits : Bits) : UInt8 := UInt8.ofNat (bitsValue bits)

/-- The bits with zeros behind them, so that there are at least eight. -/
def fillByte (bits : Bits) : Bits := bits ++ List.replicate (8 - bits.length) false

/-- The bytes of bits. The last byte is filled up with zeros. -/
def bytesOfBits : Bits → List UInt8
  | a :: b :: c :: d :: e :: f :: g :: h :: bits =>
    byteOfBits [a, b, c, d, e, f, g, h] :: bytesOfBits bits
  | [] => []
  | bits => [byteOfBits (fillByte bits)]

/-- Number of bits up to the next byte. -/
def padding (position : Nat) : Nat := (8 - position % 8) % 8

@[simp] theorem length_bitsOfBytes (bytes : List UInt8) :
    (bitsOfBytes bytes).length = 8 * bytes.length := by
  induction bytes with
  | nil => rfl
  | cons byte bytes ih =>
    simp only [bitsOfBytes, List.flatMap_cons, List.length_append, length_bitsOf,
      List.length_cons] at ih ⊢
    omega

theorem byteOfBits_bitsOf (byte : UInt8) : byteOfBits (bitsOf 8 byte.toNat) = byte := by
  have h : byte.toNat < 1 <<< 8 := byte.toNat_lt
  rw [byteOfBits, bitsValue_bitsOf, Nat.mod_eq_of_lt h, UInt8.ofNat_toNat]

/-- Writing bytes as bits and back changes nothing. -/
theorem bytesOfBits_bitsOfBytes (bytes : List UInt8) :
    bytesOfBits (bitsOfBytes bytes) = bytes := by
  induction bytes with
  | nil => rfl
  | cons byte bytes ih =>
    have h : bitsOfBytes (byte :: bytes) = bitsOf 8 byte.toNat ++ bitsOfBytes bytes := rfl
    have hb := byteOfBits_bitsOf byte
    simp only [bitsOf] at hb
    simp only [h, bitsOf, List.cons_append, List.nil_append, bytesOfBits, hb, ih]

end Phrasebook
