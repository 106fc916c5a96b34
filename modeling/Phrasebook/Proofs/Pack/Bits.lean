import Phrasebook.Pack.Bits

/-! # Bits as numbers and bytes

    Writing a number and reading it back is a law of `Pack.Bits`. Here are the converses: the bits
    of the number that bits stand for are those bits, and the bits of the bytes that hold bits are
    those bits with zeros up to the end of the last byte. The bits of a number are its binary digits
    (`getElem_bitsOf`), so a mark and a number in one word are written as one behind the other. -/

namespace Phrasebook

/-! ### Numbers -/

theorem bitsValue_cons (bit : Bool) (bits : Bits) :
    bitsValue (bit :: bits) = (bit.toNat <<< bits.length) + bitsValue bits := by
  have h (start : Nat) : bits.foldl (fun n bit => 2 * n + bit.toNat) start =
      (start <<< bits.length) + bitsValue bits := by
    simp only [bitsValue, Nat.shiftLeft_eq]
    induction bits generalizing start with
    | nil => simp
    | cons b bs ih =>
      rw [List.foldl_cons, List.foldl_cons, ih, ih (2 * 0 + b.toNat), List.length_cons,
        Nat.pow_succ, Nat.add_mul, Nat.add_mul, Nat.mul_comm 2 start, Nat.mul_assoc,
        Nat.mul_comm 2 (2 ^ bs.length)]
      omega
  simp only [bitsValue, List.foldl_cons, Nat.mul_zero, Nat.zero_add]
  exact h bit.toNat

theorem bitsValue_lt (bits : Bits) : bitsValue bits < 1 <<< bits.length := by
  induction bits with
  | nil => simp [bitsValue]
  | cons bit bits ih =>
    rw [bitsValue_cons]
    simp only [Nat.shiftLeft_eq, Nat.one_mul, List.length_cons, Nat.pow_succ] at ih ⊢
    cases bit <;> simp <;> omega

/-- Only the lowest bits of a number are written. -/
theorem bitsOf_shiftLeft_add (width high value : Nat) :
    bitsOf width ((high <<< width) + value) = bitsOf width value := by
  induction width generalizing high with
  | zero => rfl
  | succ width ih =>
    have hs : (high <<< (width + 1)) = (2 * high) <<< width := by
      simp only [Nat.shiftLeft_eq, Nat.pow_succ]
      rw [Nat.mul_comm 2 high, Nat.mul_assoc, Nat.mul_comm 2]
    have ht : ((2 * high) <<< width + value).testBit width = value.testBit width := by
      rw [Nat.shiftLeft_eq, Nat.mul_comm (2 * high), Nat.testBit_mul_two_pow_add_eq]
      simp
    rw [bitsOf, bitsOf, hs, ht, ih]

/-- Writing the number that bits stand for gives the bits back. -/
theorem bitsOf_bitsValue (bits : Bits) : bitsOf bits.length (bitsValue bits) = bits := by
  induction bits with
  | nil => rfl
  | cons bit bits ih =>
    have hv := bitsValue_lt bits
    rw [Nat.one_shiftLeft] at hv
    have ht : ((bit.toNat <<< bits.length) + bitsValue bits).testBit bits.length = bit := by
      rw [Nat.shiftLeft_eq, Nat.mul_comm bit.toNat, Nat.testBit_mul_two_pow_add_eq,
        Nat.testBit_lt_two_pow hv]
      cases bit <;> rfl
    rw [List.length_cons, bitsOf, bitsValue_cons, ht, bitsOf_shiftLeft_add, ih]

theorem getElem_bitsOf {width value i : Nat} (h : i < (bitsOf width value).length) :
    (bitsOf width value)[i] = value.testBit (width - 1 - i) := by
  induction width generalizing i with
  | zero => simp at h
  | succ width ih =>
    cases i with
    | zero => rfl
    | succ i =>
      simp only [bitsOf, List.getElem_cons_succ, ih]
      congr 1
      omega

/-- A mark and a number behind it are written together. -/
theorem bitsOf_or (high low mark value : Nat) (h : value < 1 <<< low) :
    bitsOf (high + low) (mark <<< low ||| value) = bitsOf high mark ++ bitsOf low value := by
  rw [Nat.one_shiftLeft] at h
  apply List.ext_getElem
  · simp
  · intro i hi hi'
    simp only [length_bitsOf] at hi
    rw [getElem_bitsOf, Nat.testBit_or, Nat.testBit_shiftLeft]
    by_cases hhigh : i < high
    · have hclear : value.testBit (high + low - 1 - i) = false :=
        Nat.testBit_lt_two_pow (Nat.lt_of_lt_of_le h (Nat.pow_le_pow_right (by decide) (by omega)))
      rw [List.getElem_append_left (by simpa using hhigh), getElem_bitsOf, hclear, Bool.or_false,
        decide_eq_true (by omega), Bool.true_and]
      congr 1
      omega
    · rw [List.getElem_append_right (by simpa using Nat.le_of_not_lt hhigh), getElem_bitsOf,
        decide_eq_false (by omega), Bool.false_and, Bool.false_or]
      congr 1
      simp
      omega

/-! ### Bytes -/

theorem bitsOfBytes_append (front rest : List UInt8) :
    bitsOfBytes (front ++ rest) = bitsOfBytes front ++ bitsOfBytes rest :=
  List.flatMap_append

theorem bitsOf_byteOfBits {bits : Bits} (h : bits.length = 8) :
    bitsOf 8 (byteOfBits bits).toNat = bits := by
  have hv := bitsValue_lt bits
  rw [h] at hv
  have hb := bitsOf_bitsValue bits
  rw [h] at hb
  rw [byteOfBits, UInt8.toNat_ofNat_of_lt' hv, hb]

/-- Writing bits as bytes and back adds the zeros that fill the last byte. -/
theorem bitsOfBytes_bytesOfBits (bits : Bits) :
    bitsOfBytes (bytesOfBits bits) = bits ++ List.replicate (padding bits.length) false := by
  induction bits using bytesOfBits.induct with
  | case1 a b c d e f g h bits ih =>
    have hp : padding (a :: b :: c :: d :: e :: f :: g :: h :: bits).length =
        padding bits.length := by
      simp only [padding, List.length_cons]
      omega
    rw [bytesOfBits, hp]
    simp only [bitsOfBytes, List.flatMap_cons] at ih ⊢
    rw [ih, bitsOf_byteOfBits rfl]
    rfl
  | case2 => rfl
  | case3 bits h1 h2 =>
    have hlt : bits.length < 8 := by
      -- eight bits or more would have been a byte
      rcases bits with _ | ⟨a, _ | ⟨b, _ | ⟨c, _ | ⟨d, _ | ⟨e, _ | ⟨f, _ | ⟨g, _ | ⟨h, bits⟩⟩⟩⟩⟩⟩⟩⟩
      case cons.cons.cons.cons.cons.cons.cons.cons => exact absurd rfl (h1 a b c d e f g h bits)
      all_goals simp
    have hpos : 0 < bits.length := List.length_pos_iff.2 h2
    have hfill : (fillByte bits).length = 8 := by simp [fillByte]; omega
    rw [bytesOfBits]
    · simp only [bitsOfBytes, List.flatMap_cons, List.flatMap_nil, List.append_nil]
      rw [bitsOf_byteOfBits hfill, fillByte, padding, Nat.mod_eq_of_lt hlt,
        Nat.mod_eq_of_lt (by omega)]
    · exact h1
    · exact h2

end Phrasebook
