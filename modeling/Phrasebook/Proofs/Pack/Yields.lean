import Phrasebook.Proofs.Pack.Fields

/-! # What readers yield

    Whatever the bits are, a reader that succeeds *yields* values of a certain kind: numbers below a
    bound, texts that fit. Nothing is said about the bits, which need not have been written by a
    packer. Sequences yield what their last step yields for the values of the steps in front of it.
    -/

namespace Phrasebook

namespace PackReader

variable {α β : Type} {reader : PackReader α} {next : α → PackReader β}
  {p p' : α → Prop} {q : β → Prop}

/-- Every value that is read satisfies the condition. -/
def Yields (reader : PackReader α) (p : α → Prop) : Prop :=
  ∀ source a source', reader.run source = (.ok a, source') → p a

/-! ### Sequences -/

theorem yields_pure {a : α} (h : p a) : (pure a : PackReader α).Yields p := by
  intro source b source' hrun
  obtain ⟨hb, -⟩ := Prod.mk.inj hrun
  exact Except.ok.inj hb ▸ h

theorem yields_throw (error : PackError) : (throw error : PackReader α).Yields p := by
  intro source a source' hrun
  obtain ⟨ha, -⟩ := Prod.mk.inj hrun
  cases ha

theorem yields_refuse (contradiction : Inconsistency) :
    (refuse contradiction : PackReader α).Yields p :=
  yields_throw _

/-- Nothing is asked. -/
theorem yields_true : reader.Yields fun _ => True := by
  intro source a source' hrun
  trivial

theorem Yields.imp (h : reader.Yields p) (himp : ∀ a, p a → p' a) : reader.Yields p' := by
  intro source a source' hrun
  exact himp a (h source a source' hrun)

/-- The second step is run with what the first one yields. -/
theorem Yields.bind (h : reader.Yields p) (hnext : ∀ a, p a → (next a).Yields q) :
    (reader >>= next).Yields q := by
  intro source b source' hrun
  rw [run_bind] at hrun
  split at hrun
  · rename_i a middle hread
    exact hnext a (h source a middle hread) middle b source' hrun
  · obtain ⟨hb, -⟩ := Prod.mk.inj hrun
    cases hb

/-- A last step that only wraps the value. -/
theorem Yields.map {f : α → β} (h : reader.Yields p) (hf : ∀ a, p a → q (f a)) :
    (reader >>= fun a => pure (f a)).Yields q := by
  refine h.bind ?_
  intro a ha
  exact yields_pure (hf a ha)

/-- A check in front of a reader: it is read from where the check passes. -/
theorem yields_unless {bad : Prop} [Decidable bad] {contradiction : Inconsistency}
    (h : ¬ bad → reader.Yields p) : (if bad then refuse contradiction else reader).Yields p := by
  by_cases hb : bad
  · rw [if_pos hb]
    exact yields_refuse contradiction
  · rw [if_neg hb]
    exact h hb

theorem yields_readMany {item : PackReader α} (h : item.Yields p) (count : Nat) :
    (readMany item count).Yields fun as => as.length = count ∧ ∀ a ∈ as, p a := by
  induction count with
  | zero =>
    refine yields_pure ?_
    exact ⟨rfl, fun a ha => absurd ha List.not_mem_nil⟩
  | succ count ih =>
    refine h.bind ?_
    intro first hfirst
    refine ih.bind ?_
    rintro rest ⟨hlength, hrest⟩
    refine yields_pure ?_
    exact ⟨by rw [List.length_cons, hlength], List.forall_mem_cons.2 ⟨hfirst, hrest⟩⟩

/-! ### Bits and bytes -/

theorem yields_takeBits (count : Nat) : (takeBits count).Yields fun bits => bits.length = count := by
  rintro ⟨position, bits⟩ taken source' hrun
  rcases run_takeBits_cases count position bits with ⟨front, rest, -, hlength, htake⟩ | ⟨_, hend⟩
  · obtain ⟨h, -⟩ := Prod.mk.inj (htake.symm.trans hrun)
    exact Except.ok.inj h ▸ hlength
  · obtain ⟨h, -⟩ := Prod.mk.inj (hend.symm.trans hrun)
    cases h

/-- A number of some bits is below the first one with more bits. -/
theorem yields_readBits (width : Nat) : (readBits width).Yields fun n => n < 1 <<< width := by
  refine (yields_takeBits width).bind ?_
  intro bits hbits
  refine yields_pure ?_
  have hlt := bitsValue_lt bits
  rw [hbits] at hlt
  exact Nat.lt_of_le_of_lt (Nat.mod_le _ _) hlt

theorem length_bytesOfBits {count : Nat} {bits : Bits} (h : bits.length = 8 * count) :
    (bytesOfBits bits).length = count := by
  have hbits := congrArg List.length (bitsOfBytes_bytesOfBits bits)
  rw [length_bitsOfBytes, List.length_append, List.length_replicate, h] at hbits
  have hpadding : padding (8 * count) = 0 := by
    unfold padding
    omega
  omega

theorem yields_takeBytes (count : Nat) :
    (takeBytes count).Yields fun bytes => bytes.length = count := by
  rintro ⟨position, bits⟩ bytes source' hrun
  rcases run_takeBytes_cases count position bits with ⟨front, rest, -, hlength, htake⟩ | ⟨_, hend⟩
  · obtain ⟨h, -⟩ := Prod.mk.inj (htake.symm.trans hrun)
    obtain rfl := Except.ok.inj h
    exact length_bytesOfBits hlength
  · cases (Prod.mk.inj (hend.symm.trans hrun)).1

/-! ### Counts and lengths -/

/-- A 64-bit integer that is not negative is a count. -/
theorem toNat_toInt_lt {value : Int64} (h : ¬ value.toInt < 0) : value.toInt.toNat < countLimit := by
  have hlt := value.toInt_lt
  unfold countLimit
  omega

theorem yields_readCount : readCount.Yields fun count => count < countLimit := by
  have hshort : 1 <<< 3 + 8 < countLimit := by decide
  refine yields_true.bind ?_
  intro one _
  cases one with
  | false =>
    refine (yields_readBits 3).imp ?_
    intro n hn
    omega
  | true =>
    refine yields_true.bind ?_
    intro two _
    cases two with
    | false =>
      refine (yields_readBits 3).bind ?_
      intro n hn
      refine yields_pure ?_
      omega
    | true =>
      refine yields_true.bind ?_
      intro value _
      refine yields_unless ?_
      intro hneg
      exact yields_pure (toNat_toInt_lt hneg)

theorem yields_readLength :
    readLength.Yields fun length => ∀ n ∈ length, n < countLimit := by
  have hfour : 1 <<< 4 < countLimit := by decide
  have height : 1 <<< 8 < countLimit := by decide
  refine yields_true.bind ?_
  intro form _
  match form with
  | 0 => exact yields_pure (by simp)
  | 1 =>
    refine (yields_readBits 4).bind ?_
    intro n hn
    refine yields_pure ?_
    simp only [Option.mem_def, Option.some.injEq, forall_eq']
    omega
  | 2 =>
    refine (yields_readBits 8).bind ?_
    intro n hn
    refine yields_pure ?_
    simp only [Option.mem_def, Option.some.injEq, forall_eq']
    omega
  | form + 3 =>
    refine yields_true.bind ?_
    intro value _
    refine yields_unless ?_
    intro hneg
    refine yields_pure ?_
    simpa using toNat_toInt_lt hneg

/-! ### Texts -/

/-- A text that is read has as many bytes as were read. -/
theorem length_utf8Bytes_of_readUtf8 {bytes : List UInt8} {text : String}
    (h : readUtf8 bytes = .ok text) : (utf8Bytes text).length = bytes.length := by
  unfold readUtf8 at h
  split at h
  · rename_i s hs
    obtain rfl := Except.ok.inj h
    have hsame : s.toByteArray = bytes.toByteArray := by
      unfold String.fromUTF8? at hs
      split at hs
      · obtain rfl := Option.some.inj hs
        rfl
      · cases hs
    have hsize := congrArg ByteArray.size ((toByteArray_utf8Bytes s).trans hsame)
    rwa [List.size_toByteArray, List.size_toByteArray] at hsize
  · cases h

theorem yields_readTextOf {length : Nat} (h : length < countLimit) :
    (readTextOf length).Yields FitsLength := by
  unfold readTextOf
  by_cases hzero : length = 0
  · rw [if_pos hzero]
    exact yields_pure (by decide)
  · rw [if_neg hzero]
    refine (yields_takeBytes length).bind ?_
    intro bytes hbytes
    cases hread : readUtf8 bytes with
    | error defect => exact yields_throw _
    | ok text =>
      refine yields_pure ?_
      rw [FitsLength, length_utf8Bytes_of_readUtf8 hread, hbytes]
      exact h

theorem yields_readOptional : readOptional.Yields fun text => ∀ s ∈ text, FitsLength s := by
  refine yields_readLength.bind ?_
  intro length hlength
  cases length with
  | none => exact yields_pure (by simp)
  | some length =>
    refine (yields_readTextOf (hlength length rfl)).bind ?_
    intro text htext
    refine yields_pure ?_
    simpa using htext

theorem yields_readText (what : String) : (readText what).Yields FitsLength := by
  refine yields_readOptional.bind ?_
  intro text htext
  cases text with
  | none => exact yields_refuse _
  | some text => exact yields_pure (htext text rfl)

end PackReader

end Phrasebook
