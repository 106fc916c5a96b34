import Phrasebook.Proofs.Pack.Fields
import Phrasebook.Proofs.Pack.Writer

/-! # The integer code

    Every 64-bit integer has one code, and no code begins another one. The classes of integers do not
    overlap, and each class gives its members one number each; so what a reader takes from the bits
    is the code of the integer that it gives, and nothing else could have been written there.

    * Writing: no step of the arithmetic overflows (`offset?_of_number?`), and the writer puts the
      code behind its bits.
    * Reading: `run_readInteger_cases` says all that a run can do. Marks and numbers may be cut off, and
      a number of 63 bits may be that of an integer beyond 64 bits.
    -/

namespace Phrasebook

/-! ### 64-bit integers -/

theorem int64OfInt?_eq_some_iff {n : Int} {value : Int64} :
    int64OfInt? n = some value ↔ value.toInt = n := by
  have hlo := value.le_toInt
  have hhi := value.toInt_lt
  unfold int64OfInt? int64Min int64Max
  constructor
  · intro h
    obtain ⟨hn, hvalue⟩ := Option.ite_none_right_eq_some.1 h
    obtain rfl := Option.some.inj hvalue
    exact Int64.toInt_ofInt_of_le (by omega) (by omega)
  · rintro rfl
    rw [if_pos (by omega), Int64.ofInt_toInt]

theorem int64OfInt?_eq_none_iff {n : Int} : int64OfInt? n = none ↔ n < int64Min ∨ int64Max < n := by
  rw [int64OfInt?, ite_eq_right_iff]
  simp
  omega

/-! ### Classes -/

namespace IntegerClass

variable {c d : IntegerClass} {value : Int64} {number : Nat}

/-- The least member. -/
def least (c : IntegerClass) : Int := if c.ascending then c.first else c.member ((1 <<< c.width) - 1)

/-- The greatest member. -/
def greatest (c : IntegerClass) : Int :=
  if c.ascending then c.member ((1 <<< c.width) - 1) else c.first

theorem number?_eq_some_iff {n : Int} :
    c.number? n = some number ↔ c.member number = n ∧ number < 1 <<< c.width := by
  constructor
  · exact member_of_number?
  · rintro ⟨rfl, hlt⟩
    have hnumber : (if c.ascending then c.member number - c.first else c.first - c.member number) =
        number := by
      unfold member
      split <;> omega
    simp only [number?, hnumber]
    rw [if_pos (by omega), Int.toNat_natCast]

/-- The members are the integers between the least and the greatest one. -/
theorem between_member (h : number < 1 <<< c.width) :
    c.least ≤ c.member number ∧ c.member number ≤ c.greatest := by
  simp only [least, greatest, member]
  split <;> omega

/-- Classes do not overlap. -/
theorem apart_or_eq (hc : c ∈ all) (hd : d ∈ all) :
    c = d ∨ c.greatest < d.least ∨ d.greatest < c.least := by
  have h : ∀ c ∈ all, ∀ d ∈ all, c = d ∨ c.greatest < d.least ∨ d.greatest < c.least := by decide
  exact h c hc d hd

theorem width_le (hc : c ∈ all) : c.width ≤ 63 := by
  have h : ∀ d ∈ all, d.width ≤ 63 := by decide
  exact h c hc

theorem inRange_of_width_ne (hc : c ∈ all) (hw : c.width ≠ 63) :
    int64Min ≤ c.least ∧ c.greatest ≤ int64Max := by
  have h : ∀ d ∈ all, d.width ≠ 63 → int64Min ≤ d.least ∧ d.greatest ≤ int64Max := by decide
  exact h c hc hw

/-- Numbers of members are below the first one with more than 63 bits. -/
theorem number_lt (hc : c ∈ all) (h : number < 1 <<< c.width) : number < countLimit := by
  refine Nat.lt_of_lt_of_le h ?_
  rw [Nat.one_shiftLeft]
  exact Nat.pow_le_pow_right (by decide) (width_le hc)

/-- An integer belongs to one class at most, and has one number in it. -/
theorem unique {n : Int} {m : Nat} (hc : c ∈ all) (hd : d ∈ all) (h : c.number? n = some number)
    (h' : d.number? n = some m) : c = d ∧ number = m := by
  obtain ⟨hn, hlt⟩ := number?_eq_some_iff.1 h
  obtain ⟨hm, hlt'⟩ := number?_eq_some_iff.1 h'
  have hbetween := between_member hlt
  have hbetween' := between_member hlt'
  rcases apart_or_eq hc hd with rfl | hapart
  · exact ⟨rfl, Option.some.inj (h.symm.trans h')⟩
  · omega

end IntegerClass

/-- The code of a member is the mark of its class and its number there. -/
theorem integerBits_of_number? {c : IntegerClass} {value : Int64} {number : Nat}
    (hc : c ∈ IntegerClass.all) (h : c.number? value.toInt = some number) :
    integerBits value = c.mark ++ bitsOf c.width number := by
  obtain ⟨d, hd, m, hm, hbits⟩ := PackReader.mem_class_of_integer value
  obtain ⟨rfl, rfl⟩ := IntegerClass.unique hc hd h hm
  exact hbits

/-! ### Writing -/

/-- The steps that lead to the number of a member are 64-bit integers. -/
theorem IntegerClass.offset?_of_number? {c : IntegerClass} (hc : c ∈ IntegerClass.all)
    {value : Int64} {number : Nat} (h : c.number? value.toInt = some number) :
    ∃ offset, c.offset? value = some offset ∧ offset.toUInt64.toNat = number := by
  obtain ⟨hmember, hlt⟩ := number?_eq_some_iff.1 h
  have hnumber := number_lt hc hlt
  unfold countLimit at hnumber
  have hword {offset : Int64} (ho : offset.toInt = number) : offset.toUInt64.toNat = number := by
    have hle : 0 ≤ offset := by
      rw [Int64.le_iff_toInt_le, ho]
      exact Int.natCast_nonneg number
    rw [Int64.toNat_toUInt64_of_le hle, ← Int64.toNat_toInt, ho, Int.toNat_natCast]
  have hoffset : (Int64.ofInt number).toInt = number :=
    Int64.toInt_ofInt_of_le (by omega) (by omega)
  refine ⟨.ofInt number, ?_, hword hoffset⟩
  unfold offset?
  unfold member at hmember
  cases hup : c.ascending with
  | true =>
    rw [hup, if_pos rfl] at hmember
    rw [if_pos rfl, int64OfInt?_eq_some_iff, hoffset]
    omega
  | false =>
    -- the difference is the number below zero
    rw [hup, if_neg (by decide)] at hmember
    have hdistance : (Int64.ofInt (-number)).toInt = -number :=
      Int64.toInt_ofInt_of_le (by omega) (by omega)
    have hfirst : int64OfInt? (value.toInt - c.first) = some (.ofInt (-number)) := by
      rw [int64OfInt?_eq_some_iff, hdistance]
      omega
    rw [if_neg (by decide), hfirst, Option.bind_some, int64OfInt?_eq_some_iff, hoffset, hdistance]
    omega

/-- No step of the arithmetic overflows, and the code stands behind the bits. -/
theorem PackWriter.bits_writeInteger (writer : PackWriter) (value : Int64) :
    ∃ written, writer.writeInteger value = some written ∧
      written.bits = writer.bits ++ integerBits value := by
  obtain ⟨d, hd, m, hm, -⟩ := PackReader.mem_class_of_integer value
  cases hfind : IntegerClass.all.find? fun c => (c.number? value.toInt).isSome with
  | none =>
    have := List.find?_eq_none.1 hfind d hd
    simp [hm] at this
  | some c =>
    have hc := List.mem_of_find?_eq_some hfind
    have hsome : (c.number? value.toInt).isSome = true := by simpa using List.find?_some hfind
    obtain ⟨number, hnumber⟩ := Option.isSome_iff_exists.1 hsome
    obtain ⟨offset, hoffset, hword⟩ := IntegerClass.offset?_of_number? hc hnumber
    have hw : c.width ≤ 64 := Nat.le_succ_of_le (IntegerClass.width_le hc)
    refine ⟨(writer.writeAll c.mark).writeBits c.width offset.toUInt64, ?_, ?_⟩
    · rw [writeInteger, hfind, Option.bind_some, hoffset, Option.map_some]
    · rw [bits_writeBits _ hw, bits_writeAll, hword, integerBits_of_number? hc hnumber,
        List.append_assoc]

/-! ### Reading -/

/-- The bits are those of a number of 63 bits in a class, which is that of an integer beyond 64 bits,
    and the rest. -/
def BeyondRange (bits rest : Bits) : Prop :=
  ∃ c ∈ IntegerClass.all, c.width = 63 ∧ ∃ number < 1 <<< 63,
    bits = c.mark ++ bitsOf 63 number ++ rest ∧
      (c.member number < int64Min ∨ int64Max < c.member number)

namespace PackReader

/-- All that reading an integer can do: it takes the code of the integer, or a number that is beyond
    64 bits, or the bits do not suffice. -/
theorem run_readInteger_cases (position : Nat) (bits : Bits) :
    (∃ value rest, bits = integerBits value ++ rest ∧ readInteger.run ⟨position, bits⟩ =
      (.ok value, ⟨position + (integerBits value).length, rest⟩)) ∨
    (∃ source, BeyondRange bits source.rest ∧ readInteger.run ⟨position, bits⟩ =
      (.error (.inconsistent .integerOutOfRange), source)) ∨
    ∃ source, readInteger.run ⟨position, bits⟩ = (.error .unexpectedEnd, source) := by
  rcases run_readClass_cases position bits with ⟨c, hc, behind, rfl, hclass⟩ | ⟨source, hend⟩
  case inr => exact .inr (.inr ⟨source, run_bind_error hend⟩)
  have hw : c.width ≤ 64 := Nat.le_succ_of_le (IntegerClass.width_le hc)
  rcases run_readBits_cases hw (position + c.mark.length) behind with
    ⟨number, rest, hlt, rfl, hnumber⟩ | ⟨source, hend⟩
  case inr =>
    refine .inr (.inr ⟨source, ?_⟩)
    rw [readInteger, run_bind_ok hclass, run_bind_error hend]
  -- the number is there, so the member decides
  cases hmember : int64OfInt? (c.member number) with
  | some value =>
    have hvalue := IntegerClass.number?_eq_some_iff.2 ⟨(int64OfInt?_eq_some_iff.1 hmember).symm, hlt⟩
    have hcode := integerBits_of_number? hc hvalue
    refine .inl ⟨value, rest, by rw [hcode, List.append_assoc], ?_⟩
    rw [readInteger, run_bind_ok hclass, run_bind_ok hnumber, hcode, List.length_append,
      length_bitsOf, ← Nat.add_assoc]
    simp only [hmember]
    rfl
  | none =>
    have hbeyond := int64OfInt?_eq_none_iff.1 hmember
    have hwidth : c.width = 63 := by
      -- the members of the other classes are 64-bit integers
      apply Decidable.byContradiction
      intro hne
      have hrange := IntegerClass.inRange_of_width_ne hc hne
      have hbetween := IntegerClass.between_member hlt
      omega
    refine .inr (.inl ⟨⟨position + c.mark.length + c.width, rest⟩, ?_, ?_⟩)
    · rw [hwidth] at hlt ⊢
      exact ⟨c, hc, hwidth, number, hlt, (List.append_assoc ..).symm, hbeyond⟩
    · rw [readInteger, run_bind_ok hclass, run_bind_ok hnumber]
      simp only [hmember]
      rfl

theorem run_readInteger (value : Int64) (position : Nat) (behind : Bits) :
    readInteger.run ⟨position, integerBits value ++ behind⟩ =
      (.ok value, ⟨position + (integerBits value).length, behind⟩) := by
  have hread := reads_readInteger value position behind
  simpa only [layout, layoutEnd, List.append_nil] using hread

end PackReader

/-! ### The code -/

/-- The integer code is a canonical prefix code. Wherever a writer stands, it puts the code of an
    integer behind its bits without an overflow; wherever a reader stands and whatever follows, it
    takes exactly the code. No code begins another one. Where a reader gives an integer, it has taken
    the code of that integer; where it gives none, the bits do not suffice, or a number of 63 bits is
    that of an integer beyond 64 bits. -/
theorem integerBits_canonical :
    (∀ (value : Int64) (writer : PackWriter), ∃ written, writer.writeInteger value = some written ∧
      written.bits = writer.bits ++ integerBits value) ∧
    (∀ (value : Int64) (position : Nat) (behind : Bits),
      PackReader.readInteger.run ⟨position, integerBits value ++ behind⟩ =
        (.ok value, ⟨position + (integerBits value).length, behind⟩)) ∧
    (∀ value other : Int64, integerBits value <+: integerBits other → value = other) ∧
    (∀ (position : Nat) (bits : Bits) (value : Int64) (source : BitSource),
      PackReader.readInteger.run ⟨position, bits⟩ = (.ok value, source) →
        bits = integerBits value ++ source.rest ∧
          source.position = position + (integerBits value).length) ∧
    (∀ (position : Nat) (bits : Bits) (error : PackError) (source : BitSource),
      PackReader.readInteger.run ⟨position, bits⟩ = (.error error, source) →
        error = .unexpectedEnd ∨
          error = .inconsistent .integerOutOfRange ∧ BeyondRange bits source.rest) := by
  refine ⟨fun value writer => writer.bits_writeInteger value, PackReader.run_readInteger, ?_, ?_, ?_⟩
  · rintro value other ⟨behind, hcode⟩
    -- both integers are read where the longer code stands
    have hvalue := PackReader.run_readInteger value 0 behind
    have hother := PackReader.run_readInteger other 0 []
    rw [List.append_nil, ← hcode] at hother
    exact Except.ok.inj (Prod.mk.inj (hvalue.symm.trans hother)).1
  · intro position bits value source hrun
    rcases PackReader.run_readInteger_cases position bits with
      ⟨read, rest, hbits, hread⟩ | ⟨_, -, hread⟩ | ⟨_, hread⟩
    · obtain ⟨hvalue, rfl⟩ := Prod.mk.inj (hread.symm.trans hrun)
      obtain rfl := Except.ok.inj hvalue
      exact ⟨hbits, rfl⟩
    · cases (Prod.mk.inj (hread.symm.trans hrun)).1
    · cases (Prod.mk.inj (hread.symm.trans hrun)).1
  · intro position bits error source hrun
    rcases PackReader.run_readInteger_cases position bits with
      ⟨read, rest, -, hread⟩ | ⟨_, hbeyond, hread⟩ | ⟨_, hread⟩
    · cases (Prod.mk.inj (hread.symm.trans hrun)).1
    · obtain ⟨herror, rfl⟩ := Prod.mk.inj (hread.symm.trans hrun)
      exact .inr ⟨(Except.error.inj herror).symm, hbeyond⟩
    · exact .inl (Except.error.inj (Prod.mk.inj (hread.symm.trans hrun)).1).symm

set_option maxRecDepth 2000 in
/-- The least integer in front of a bit, and numbers of 63 bits that are cut off or too large. -/
theorem integerBits_canonical_extremes :
    let mark : Bits := [true, true, true, true, true, true]
    let least : Bits := integerBits Int64.minValue ++ [true]
    let cut : Bits := mark ++ List.replicate 62 true
    let large : Bits := mark ++ List.replicate 63 true
    (least.length = 70 ∧
      PackReader.readInteger.run ⟨3, least⟩ = (.ok Int64.minValue, ⟨72, [true]⟩)) ∧
    (PackReader.readInteger.run ⟨3, cut⟩).1 = .error .unexpectedEnd ∧
    ((PackReader.readInteger.run ⟨3, large⟩).1 = .error (.inconsistent .integerOutOfRange) ∧
      BeyondRange large []) := by
  intro mark least cut large
  obtain ⟨-, hrun, -, hread, hfail⟩ := integerBits_canonical
  have hleast := hrun Int64.minValue 3 [true]
  obtain ⟨hbits, -⟩ := hread 3 least _ _ hleast
  let last : IntegerClass := ⟨mark, 63, -132105, false⟩
  have hnumber : last.number? Int64.minValue.toInt = some 9223372036854643703 := by decide
  have hlength : (integerBits Int64.minValue).length = 69 := by
    rw [integerBits_of_number? (by decide : last ∈ IntegerClass.all) hnumber, List.length_append,
      length_bitsOf]
    rfl
  have hcut : PackReader.readInteger.run ⟨3, cut⟩ = (.error .unexpectedEnd, ⟨71, []⟩) := rfl
  have hlarge : PackReader.readInteger.run ⟨3, large⟩ =
      (.error (.inconsistent .integerOutOfRange), ⟨72, []⟩) := rfl
  rw [hlength] at hleast
  refine ⟨⟨?_, hleast⟩, ?_, ?_⟩
  · rw [hbits, List.length_append, hlength]
    rfl
  · rcases hfail 3 cut _ _ hcut with herror | ⟨herror, -⟩
    · rw [hcut, herror]
    · cases herror
  · rcases hfail 3 large _ _ hlarge with herror | ⟨herror, hbeyond⟩
    · cases herror
    · exact ⟨by rw [hlarge, herror], hbeyond⟩

end Phrasebook
