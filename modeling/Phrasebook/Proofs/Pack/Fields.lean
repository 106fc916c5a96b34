import Phrasebook.Pack.Text
import Phrasebook.Proofs.Pack.Bits
import Phrasebook.Proofs.Pack.Reads

/-! # Packed numbers and texts are read back

    Every 64-bit integer belongs to a class, and the marks of the classes tell them apart; counts
    and lengths use the integer code behind forms of their own. A count or a length is read back as
    long as it is a 64-bit integer, as every number of items and bytes in memory is. -/

namespace Phrasebook

/-- The least number that is no 64-bit integer. -/
def countLimit : Nat := 0x8000000000000000

/-- The text has no more bytes than a length can tell. -/
def FitsLength (text : String) : Prop := (utf8Bytes text).length < countLimit

instance (text : String) : Decidable (FitsLength text) :=
  inferInstanceAs (Decidable ((utf8Bytes text).length < countLimit))

theorem eq_of_utf8Bytes_eq {s t : String} (h : utf8Bytes s = utf8Bytes t) : s = t := by
  have hs := readUtf8_utf8Bytes s
  rw [h, readUtf8_utf8Bytes] at hs
  exact (Except.ok.inj hs).symm

/-- No character has more than four bytes. -/
theorem length_utf8Bytes_le (s : String) : (utf8Bytes s).length ≤ 4 * s.length := by
  rw [utf8Bytes, ← String.length_toList]
  induction s.toList with
  | nil => simp
  | cons c cs ih =>
    have hc := Char.utf8Size_le_four c
    rw [List.flatMap_cons, List.length_append, List.length_cons, String.length_utf8EncodeChar]
    omega

namespace PackReader

variable {α : Type} {reader : PackReader α} {a : α}

/-! ### Integers -/

theorem mem_class_of_integer (value : Int64) :
    ∃ c ∈ IntegerClass.all, ∃ number, c.number? value.toInt = some number ∧
      integerBits value = c.mark ++ bitsOf c.width number := by
  have hlo := value.le_toInt
  have hhi := value.toInt_lt
  rcases h : IntegerClass.all.findSome? fun c => c.bits? value.toInt with _ | bits
  · -- no class at all: the ranges of the nine classes would leave a gap
    simp [IntegerClass.all, IntegerClass.bits?, IntegerClass.number?, Int.shiftLeft_eq] at h
    omega
  · obtain ⟨c, hc, hb⟩ := List.exists_of_findSome?_eq_some h
    obtain ⟨number, hn, rfl⟩ := Option.map_eq_some_iff.1 hb
    exact ⟨c, hc, number, hn, by rw [integerBits, h, Option.getD_some]⟩

theorem find_mark {c : IntegerClass} (hc : c ∈ IntegerClass.all) (behind : Bits) :
    (IntegerClass.all.find? fun d => d.mark.isPrefixOf (c.mark ++ behind)) = some c := by
  simp only [IntegerClass.all, List.mem_cons, List.not_mem_nil, or_false] at hc
  rcases hc with rfl | rfl | rfl | rfl | rfl | rfl | rfl | rfl | rfl <;> rfl

theorem reads_readClass {c : IntegerClass} (hc : c ∈ IntegerClass.all) :
    readClass.Reads [.bits c.mark] c := by
  intro position behind
  have hl : layout position [.bits c.mark] = c.mark := List.append_nil c.mark
  rw [readClass, run_bind_ok (run_get _), hl]
  simp only [find_mark hc]
  have h := (reads_takeBits c.mark).map (fun _ => c) position behind
  rwa [hl] at h

/-- All that reading a mark can do: no mark begins another one, so the first that fits is the one. -/
theorem run_readClass_cases (position : Nat) (bits : Bits) :
    (∃ c ∈ IntegerClass.all, ∃ rest, bits = c.mark ++ rest ∧
      readClass.run ⟨position, bits⟩ = (.ok c, ⟨position + c.mark.length, rest⟩)) ∨
    ∃ source, readClass.run ⟨position, bits⟩ = (.error .unexpectedEnd, source) := by
  cases hfind : IntegerClass.all.find? fun c => c.mark.isPrefixOf bits with
  | some c =>
    have hc := List.mem_of_find?_eq_some hfind
    have hmark : c.mark.isPrefixOf bits = true := by simpa using List.find?_some hfind
    obtain ⟨rest, rfl⟩ := List.isPrefixOf_iff_prefix.1 hmark
    have hread := reads_readClass hc position rest
    simp only [layout, layoutEnd, List.append_nil] at hread
    exact .inl ⟨c, hc, rest, rfl, hread⟩
  | none =>
    refine .inr ?_
    rcases run_takeBits_cases (bits.length + 1) position bits with
      ⟨front, rest, hbits, hlength, -⟩ | ⟨source, hend⟩
    · -- there is no bit behind the last one
      have := congrArg List.length hbits
      rw [List.length_append] at this
      omega
    · refine ⟨source, ?_⟩
      rw [readClass, run_bind_ok (run_get _)]
      simp only [hfind]
      exact run_bind_error hend

/-- All that reading a number of at most 64 bits can do. -/
theorem run_readBits_cases {width : Nat} (hw : width ≤ 64) (position : Nat) (bits : Bits) :
    (∃ number rest, number < 1 <<< width ∧ bits = bitsOf width number ++ rest ∧
      (readBits width).run ⟨position, bits⟩ = (.ok number, ⟨position + width, rest⟩)) ∨
    ∃ source, (readBits width).run ⟨position, bits⟩ = (.error .unexpectedEnd, source) := by
  rcases run_takeBits_cases width position bits with ⟨front, rest, rfl, rfl, -⟩ | ⟨source, hend⟩
  · have hlt := bitsValue_lt front
    have hread := reads_readBits_of_lt hw hlt position rest
    refine .inl ⟨bitsValue front, rest, hlt, by rw [bitsOf_bitsValue], ?_⟩
    rw [bitsOf_bitsValue] at hread
    simpa only [layout, layoutEnd, List.append_nil] using hread
  · exact .inr ⟨source, run_bind_error hend⟩

/-- Two runs of bits behind each other are one run. -/
theorem Reads.join {front back : Bits} {chunks : List Chunk}
    (h : reader.Reads (.bits front :: .bits back :: chunks) a) :
    reader.Reads (.bits (front ++ back) :: chunks) a := by
  intro position behind
  have hr := h position behind
  simpa only [layout, layoutEnd, List.append_assoc, List.length_append, Nat.add_assoc] using hr

theorem reads_readInteger (value : Int64) :
    readInteger.Reads [.bits (integerBits value)] value := by
  obtain ⟨c, hc, number, hn, hb⟩ := mem_class_of_integer value
  -- the mark finds the class again, and the number the member of the class
  obtain ⟨hm, hlt⟩ := IntegerClass.member_of_number? hn
  have hw : c.width ≤ 64 := by
    have : ∀ d ∈ IntegerClass.all, d.width ≤ 64 := by decide
    exact this c hc
  have hv : int64OfInt? (c.member number) = some value := by
    have hlo := value.le_toInt
    have hhi := value.toInt_lt
    rw [hm, int64OfInt?, if_pos (by simp only [int64Min, int64Max]; omega), Int64.ofInt_toInt]
  rw [hb]
  refine Reads.join ((reads_readClass hc).bind ?_)
  refine (reads_readBits_of_lt hw hlt).bind ?_
  simp only [hv]
  exact reads_pure value

/-! ### Counts -/

theorem integer_of_count {count : Nat} (h : count < countLimit) :
    ¬ (Int64.ofNat count).toInt < 0 ∧ (Int64.ofNat count).toInt.toNat = count := by
  rw [Int64.toInt_ofNat_of_lt h]
  omega

/-- A count has one of three forms: three bits, three bits above eight, or an integer. -/
theorem reads_readCount {count : Nat} (h : count < countLimit) :
    readCount.Reads [.bits (countBits count)] count := by
  unfold countBits
  split
  · rename_i hc
    have hb : bitsOf 4 count = [false] ++ bitsOf 3 count := by
      have ht : count.testBit 3 = false := Nat.testBit_lt_two_pow hc
      rw [bitsOf, ht]
      rfl
    rw [hb]
    -- the first bit tells short counts from the other two forms
    refine Reads.join ((reads_readBool false).bind ?_)
    exact reads_readBits_of_lt (by decide) hc
  split
  · rename_i hc hc'
    have hlt : count - 8 < 1 <<< 3 := by simp; omega
    have hn := (reads_readBits_of_lt (by decide) hlt).map (· + 8)
    rw [Nat.sub_add_cancel (by omega)] at hn
    refine Reads.join (Reads.join ((reads_readBool true).bind ?_))
    exact (reads_readBool false).bind hn
  · obtain ⟨hp, hv⟩ := integer_of_count h
    have hn : (if (Int64.ofNat count).toInt < 0 then refuse (.negativeCount (.ofNat count))
        else pure (Int64.ofNat count).toInt.toNat : PackReader Nat).Reads [] count := by
      rw [if_neg hp, hv]
      exact reads_pure count
    refine Reads.join (Reads.join ((reads_readBool true).bind ?_))
    refine (reads_readBool true).bind ?_
    exact (reads_readInteger (.ofNat count)).bind hn

/-! ### Texts -/

theorem reads_mark {mark : Nat} (h : mark < 4) :
    (readBits 2).Reads [.bits (bitsOf 2 mark)] mark :=
  reads_readBits_of_lt (by decide) h

/-- The length of a text that is there: four bits, eight bits, or an integer. -/
theorem reads_readLength {length : Nat} (h : length < countLimit) :
    readLength.Reads [.bits (lengthBits length)] (some length) := by
  unfold lengthBits
  split
  · rename_i hl
    refine Reads.join ((reads_mark (by decide : 1 < 4)).bind ?_)
    exact (reads_readBits_of_lt (by decide) hl).map some
  split
  · rename_i hl
    refine Reads.join ((reads_mark (by decide : 2 < 4)).bind ?_)
    exact (reads_readBits_of_lt (by decide) hl).map some
  · -- lengths are written as signed integers, and are refused if they come back negative
    obtain ⟨hp, hv⟩ := integer_of_count h
    have hn : (if (Int64.ofNat length).toInt < 0 then refuse (.negativeLength (.ofNat length))
        else pure (some (Int64.ofNat length).toInt.toNat) : PackReader (Option Nat)).Reads []
          (some length) := by
      rw [if_neg hp, hv]
      exact reads_pure (some length)
    refine Reads.join ((reads_mark (by decide : 3 < 4)).bind ?_)
    exact (reads_readInteger (.ofNat length)).bind hn

theorem reads_readTextOf (text : String) :
    (readTextOf (utf8Bytes text).length).Reads
      (if (utf8Bytes text).isEmpty then [] else [.bytes (utf8Bytes text)]) text := by
  unfold readTextOf
  split
  · rename_i h
    -- an empty text has no bytes, so the reader does not align
    have hnil := List.length_eq_zero_iff.1 h
    have ht : text = "" := eq_of_utf8Bytes_eq (hnil.trans (by simp [utf8Bytes]))
    rw [hnil, ht]
    exact reads_pure ""
  · rename_i h
    have hne : (utf8Bytes text).isEmpty = false := by
      rw [List.isEmpty_eq_false_iff]
      exact fun hnil => h (List.length_eq_zero_iff.2 hnil)
    rw [hne]
    refine (reads_takeBytes (utf8Bytes text)).bind ?_
    simp only [readUtf8_utf8Bytes]
    exact reads_pure text

/-- Texts start at the beginning of a byte, wherever their length stands; the empty one leaves no
    gap behind its length. -/
theorem reads_readOptional {text : Option String} (h : ∀ s ∈ text, FitsLength s) :
    readOptional.Reads (optionalChunks text) text := by
  cases text with
  | none =>
    have hl : readLength.Reads [.bits [false, false]] none :=
      (reads_mark (by decide : 0 < 4)).bind (reads_pure none)
    exact hl.bind (reads_pure none)
  | some text =>
    refine (reads_readLength (h text rfl)).bind ?_
    exact (reads_readTextOf text).map some

theorem reads_readText (what : String) {text : String} (h : FitsLength text) :
    (readText what).Reads (textChunks text) text := by
  have ho : readOptional.Reads (optionalChunks (some text)) (some text) :=
    reads_readOptional (by simpa using h)
  exact ho.then (reads_pure text)

end PackReader

end Phrasebook
