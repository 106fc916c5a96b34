import Phrasebook.Pack.Writer
import Phrasebook.Proofs.Pack.Bits

/-! # What a writer holds

    A writer is looked at through the bits that were written so far. Every step puts bits behind
    them, wherever in a byte they end: single bits and words as they are, bytes behind the zeros up to
    the next byte. The bytes that are left in the end are those of all the bits (`finish_eq`). -/

namespace Phrasebook

/-! ### The byte that is being written -/

/-- A bit that is set behind the written ones follows them. -/
theorem take_bitsOf_orBit {byte : UInt8} {used : Nat} (h : ClearBehind byte used) (hu : used < 8)
    (value : Bool) :
    (bitsOf 8 (orBit byte used value).toNat).take (used + 1) =
      (bitsOf 8 byte.toNat).take used ++ [value] := by
  have hfront : ((bitsOf 8 byte.toNat).take used).length = used := by
    rw [List.length_take, length_bitsOf]
    omega
  apply List.ext_getElem
  · rw [List.length_take, length_bitsOf, List.length_append, hfront, List.length_singleton]
    omega
  · intro i hi hi'
    rw [List.length_take, length_bitsOf] at hi
    rw [List.getElem_take, getElem_bitsOf, testBit_orBit hu]
    by_cases hlast : i = used
    · subst hlast
      have hclear := h (8 - 1 - i) (by omega)
      rw [List.getElem_append_right (by omega), hclear]
      simp
    · have hne : 8 - 1 - i ≠ 7 - used := by omega
      rw [List.getElem_append_left (by omega), List.getElem_take, getElem_bitsOf]
      simp [hne]

/-- What is not yet written of the byte is zeros. -/
theorem drop_bitsOf_of_clearBehind {byte : UInt8} {used : Nat} (h : ClearBehind byte used) :
    (bitsOf 8 byte.toNat).drop used = List.replicate (8 - used) false := by
  apply List.ext_getElem
  · simp
  · intro i hi hi'
    simp only [List.length_replicate] at hi'
    rw [List.getElem_drop, getElem_bitsOf, List.getElem_replicate]
    exact h _ (by omega)

namespace PackWriter

/-! ### Bits -/

theorem length_bits (writer : PackWriter) :
    writer.bits.length = 8 * writer.bytes.size + writer.used := by
  have hu := writer.used_lt
  simp [bits]
  omega

theorem bits_writeBool (writer : PackWriter) (value : Bool) :
    (writer.writeBool value).bits = writer.bits ++ [value] := by
  have htake := take_bitsOf_orBit writer.clear writer.used_lt value
  unfold writeBool
  dsimp only
  split
  · rename_i hfull
    -- the byte is complete, so all of its bits count
    rw [hfull, List.take_of_length_le (by simp)] at htake
    simp [bits, bitsOfBytes, htake]
  · simp [bits, htake]

theorem bits_writeAll (writer : PackWriter) (bits : Bits) :
    (writer.writeAll bits).bits = writer.bits ++ bits := by
  unfold writeAll
  induction bits generalizing writer with
  | nil => simp
  | cons bit bits ih =>
    rw [List.foldl_cons, ih, bits_writeBool, List.append_assoc]
    rfl

theorem bit_eq_testBit (value : UInt64) {index : Nat} (h : index < 64) :
    ((value >>> .ofNat index) &&& 1 == 1) = value.toNat.testBit index := by
  have hindex : (UInt64.ofNat index).toNat % 64 = index := by
    rw [UInt64.toNat_ofNat']
    omega
  have hand : ((value >>> .ofNat index) &&& 1).toNat = (value.toNat.testBit index).toNat := by
    rw [UInt64.toNat_and, UInt64.toNat_shiftRight, hindex, Nat.toNat_testBit,
      Nat.shiftRight_eq_div_pow]
    exact Nat.and_one_is_mod _
  rw [Bool.eq_iff_iff, beq_iff_eq, ← UInt64.toNat_inj, hand]
  cases value.toNat.testBit index <;> decide

theorem bits_writeBits (writer : PackWriter) {width : Nat} (h : width ≤ 64) (value : UInt64) :
    (writer.writeBits width value).bits = writer.bits ++ bitsOf width value.toNat := by
  induction width generalizing writer with
  | zero => simp [writeBits, bitsOf]
  | succ width ih =>
    rw [writeBits, ih _ (by omega), bits_writeBool, bit_eq_testBit value (by omega), bitsOf,
      List.append_assoc]
    rfl

/-! ### Bytes -/

theorem used_align (writer : PackWriter) : writer.align.used = 0 := by
  unfold align
  split
  · assumption
  · rfl

theorem bits_align (writer : PackWriter) :
    writer.align.bits = writer.bits ++ List.replicate (padding writer.bits.length) false := by
  have hu := writer.used_lt
  have hpadding : padding writer.bits.length = (8 - writer.used) % 8 := by
    rw [length_bits, padding]
    omega
  rw [hpadding]
  unfold align
  split
  · rename_i hzero
    simp [hzero]
  · rename_i hused
    -- the zeros behind the written bits are in the byte already
    have hbyte : bitsOf 8 writer.current.toNat =
        (bitsOf 8 writer.current.toNat).take writer.used ++
          List.replicate (8 - writer.used) false := by
      rw [← drop_bitsOf_of_clearBehind writer.clear, List.take_append_drop]
    rw [Nat.mod_eq_of_lt (by omega)]
    simp only [bits, Array.toList_push, bitsOfBytes_append, List.take_zero, List.append_nil,
      List.append_assoc, ← hbyte]
    simp [bitsOfBytes]

theorem bits_writeBytes (writer : PackWriter) (bytes : List UInt8) :
    (writer.writeBytes bytes).bits = writer.align.bits ++ bitsOfBytes bytes := by
  simp [writeBytes, bits, used_align, bitsOfBytes_append]

/-- The bytes of a writer are those of its bits. -/
theorem finish_eq (writer : PackWriter) : writer.finish = bytesOfBits writer.bits := by
  have haligned : bitsOfBytes writer.finish = writer.align.bits := by
    simp [finish, bits, used_align]
  have hbits : bitsOfBytes writer.finish = bitsOfBytes (bytesOfBits writer.bits) := by
    rw [haligned, bits_align, bitsOfBytes_bytesOfBits]
  rw [← bytesOfBits_bitsOfBytes writer.finish, hbits, bytesOfBits_bitsOfBytes]

end PackWriter

end Phrasebook
