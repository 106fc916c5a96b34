import Phrasebook.Pack.Layout
import Phrasebook.Pack.Reader

/-! # Readers and the chunks they read

    A reader *reads* chunks as a value if it gets the value from where the chunks are laid out,
    whatever the position they start at and whatever stands behind them, and stops right behind
    them. It *refuses* chunks if it ends there with a contradiction in the content. Both are closed
    under sequencing, so a reader and a writer are compared field by field.

    `ReadsIf` joins the two: the reader reads the chunks if a condition holds, and refuses them
    otherwise. -/

namespace Phrasebook

theorem layoutEnd_append (position : Nat) (chunks rest : List Chunk) :
    layoutEnd position (chunks ++ rest) = layoutEnd (layoutEnd position chunks) rest := by
  induction chunks generalizing position with
  | nil => rfl
  | cons chunk chunks ih => cases chunk <;> simp [layoutEnd, ih]

namespace PackReader

variable {α β : Type} {reader : PackReader α} {next : α → PackReader β}
  {chunks rest : List Chunk} {a : α} {b : β}

/-- The reader gets `a` from where the chunks are laid out, and stops right behind them. -/
def Reads (reader : PackReader α) (chunks : List Chunk) (a : α) : Prop :=
  ∀ position bits, reader.run ⟨position, layout position chunks ++ bits⟩ =
    (.ok a, ⟨layoutEnd position chunks, bits⟩)

/-- The reader finds a contradiction where the chunks are laid out. -/
def Refuses (reader : PackReader α) (chunks : List Chunk) : Prop :=
  ∀ position bits, ∃ contradiction source,
    reader.run ⟨position, layout position chunks ++ bits⟩ =
      (.error (.inconsistent contradiction), source)

/-- The reader gets `a` from the chunks if `good` holds, and refuses them otherwise. -/
def ReadsIf (reader : PackReader α) (chunks : List Chunk) (good : Prop) (a : α) : Prop :=
  (good → reader.Reads chunks a) ∧ (¬ good → reader.Refuses chunks)

/-! ### Running a sequence -/

/-- What a sequence does behind what its first step does. -/
theorem run_bind (reader : PackReader α) (next : α → PackReader β) (source : BitSource) :
    (reader >>= next).run source =
      match (reader.run source : Except PackError α × BitSource) with
      | (.ok a, source') => (next a).run source'
      | (.error e, source') => (.error e, source') := by
  show (match (reader.run source : Except PackError α × BitSource) with
    | (r, source') => ExceptT.bindCont next r source') = _
  rcases (reader.run source : Except PackError α × BitSource) with ⟨_ | _, _⟩ <;> rfl

theorem run_bind_ok {source source' : BitSource} (h : reader.run source = (.ok a, source')) :
    (reader >>= next).run source = (next a).run source' := by
  rw [run_bind, h]

theorem run_bind_error {source source' : BitSource} {e : PackError}
    (h : reader.run source = (.error e, source')) :
    (reader >>= next).run source = (.error e, source') := by
  rw [run_bind, h]

theorem reads_pure (a : α) : (pure a : PackReader α).Reads [] a := fun _ _ => rfl

theorem refuses_refuse (contradiction : Inconsistency) (chunks : List Chunk) :
    (refuse contradiction : PackReader α).Refuses chunks :=
  fun _ _ => ⟨contradiction, _, rfl⟩

theorem Reads.bind (h : reader.Reads chunks a) (hn : (next a).Reads rest b) :
    (reader >>= next).Reads (chunks ++ rest) b := by
  intro position bits
  rw [layout_append, List.append_assoc, run_bind_ok (h position _), hn, layoutEnd_append]

theorem Reads.bind_refuses (h : reader.Reads chunks a) (hn : (next a).Refuses rest) :
    (reader >>= next).Refuses (chunks ++ rest) := by
  intro position bits
  rw [layout_append, List.append_assoc, run_bind_ok (h position _)]
  exact hn _ bits

theorem Refuses.bind (h : reader.Refuses chunks) (rest : List Chunk) :
    (reader >>= next).Refuses (chunks ++ rest) := by
  intro position bits
  obtain ⟨contradiction, source, hr⟩ := h position (layout (layoutEnd position chunks) rest ++ bits)
  refine ⟨contradiction, source, ?_⟩
  rw [layout_append, List.append_assoc]
  exact run_bind_error hr

/-! ### Conditions -/

theorem Reads.readsIf (h : reader.Reads chunks a) : reader.ReadsIf chunks True a :=
  ⟨fun _ => h, fun hn => absurd trivial hn⟩

theorem ReadsIf.congr {good good' : Prop} (h : reader.ReadsIf chunks good a)
    (hg : good ↔ good') : reader.ReadsIf chunks good' a :=
  ⟨fun h' => h.1 (hg.2 h'), fun h' => h.2 fun hg' => h' (hg.1 hg')⟩

theorem readsIf_pure (a : α) : (pure a : PackReader α).ReadsIf [] True a := (reads_pure a).readsIf

/-- A sequence reads what both of its steps read. The second step has to be right only where the
    first one succeeds. -/
theorem ReadsIf.bind {good good' : Prop} (h : reader.ReadsIf chunks good a)
    (hn : (next a).ReadsIf rest good' b) :
    (reader >>= next).ReadsIf (chunks ++ rest) (good ∧ good') b := by
  refine ⟨fun hg => (h.1 hg.1).bind (hn.1 hg.2), fun hg => ?_⟩
  -- where the first step refuses, the second one is never run
  by_cases hgood : good
  · exact (h.1 hgood).bind_refuses (hn.2 fun h' => hg ⟨hgood, h'⟩)
  · exact (h.2 hgood).bind rest

/-- A first step that always succeeds adds no condition. -/
theorem Reads.bind_readsIf {good : Prop} (h : reader.Reads chunks a)
    (hn : (next a).ReadsIf rest good b) :
    (reader >>= next).ReadsIf (chunks ++ rest) good b :=
  (h.readsIf.bind hn).congr (iff_of_eq (true_and good))

/-- A last step that reads nothing may add a condition of its own. -/
theorem ReadsIf.then {good good' : Prop} (h : reader.ReadsIf chunks good a)
    (hn : (next a).ReadsIf [] good' b) : (reader >>= next).ReadsIf chunks (good ∧ good') b := by
  have hb := h.bind hn
  rwa [List.append_nil] at hb

theorem Reads.then (h : reader.Reads chunks a) (hn : (next a).Reads [] b) :
    (reader >>= next).Reads chunks b :=
  (h.readsIf.then hn.readsIf).1 ⟨trivial, trivial⟩

/-- A last step that only wraps the value adds no condition. -/
theorem ReadsIf.map {good : Prop} (h : reader.ReadsIf chunks good a) (f : α → β) :
    (reader >>= fun x => pure (f x)).ReadsIf chunks good (f a) :=
  (h.then (readsIf_pure (f a))).congr (iff_of_eq (and_true good))

theorem Reads.map (h : reader.Reads chunks a) (f : α → β) :
    (reader >>= fun x => pure (f x)).Reads chunks (f a) :=
  h.then (reads_pure (f a))

/-- A check in front of a reader adds its contrary to the condition. -/
theorem ReadsIf.unless {good bad : Prop} [Decidable bad] (h : reader.ReadsIf chunks good a)
    (contradiction : Inconsistency) :
    (if bad then refuse contradiction else reader).ReadsIf chunks (¬ bad ∧ good) a := by
  by_cases hb : bad
  · rw [if_pos hb]
    exact ⟨fun hg => absurd hb hg.1, fun _ => refuses_refuse contradiction chunks⟩
  · rw [if_neg hb]
    exact h.congr ⟨fun hg => ⟨hb, hg⟩, And.right⟩

/-- A check with the refusal behind it adds itself to the condition. -/
theorem ReadsIf.provided {good fine : Prop} [Decidable fine] (h : reader.ReadsIf chunks good a)
    (contradiction : Inconsistency) :
    (if fine then reader else refuse contradiction).ReadsIf chunks (fine ∧ good) a := by
  have hu : (if ¬ fine then refuse contradiction else reader).ReadsIf chunks (¬ ¬ fine ∧ good) a :=
    h.unless contradiction
  rw [ite_not] at hu
  exact hu.congr (by rw [Decidable.not_not])

/-! ### Bits and bytes -/

theorem run_get (source : BitSource) :
    (get : PackReader BitSource).run source = (.ok source, source) := rfl

theorem reads_takeBits (bits : Bits) : (takeBits bits.length).Reads [.bits bits] bits := by
  intro position behind
  have hl : layout position [.bits bits] = bits := List.append_nil bits
  rw [takeBits, run_bind_ok (run_get _), hl]
  simp only [splitBits?_append]
  rfl

/-- All that taking bits can do. -/
theorem run_takeBits_cases (count position : Nat) (bits : Bits) :
    (∃ front rest, bits = front ++ rest ∧ front.length = count ∧
      (takeBits count).run ⟨position, bits⟩ = (.ok front, ⟨position + count, rest⟩)) ∨
    ∃ source, (takeBits count).run ⟨position, bits⟩ = (.error .unexpectedEnd, source) := by
  rw [takeBits, run_bind_ok (run_get _)]
  cases hs : splitBits? count bits with
  | none => exact .inr ⟨_, rfl⟩
  | some split =>
    obtain ⟨front, rest⟩ := split
    obtain ⟨hbits, hlength⟩ := eq_append_of_splitBits? hs
    exact .inl ⟨front, rest, hbits, hlength, rfl⟩

/-- All that taking bytes can do: the gap in front of them is passed over first. -/
theorem run_takeBytes_cases (count position : Nat) (bits : Bits) :
    (∃ front rest, bits.drop (padding position) = front ++ rest ∧ front.length = 8 * count ∧
      (takeBytes count).run ⟨position, bits⟩ =
        (.ok (bytesOfBits front), ⟨position + padding position + 8 * count, rest⟩)) ∨
    ∃ source, (takeBytes count).run ⟨position, bits⟩ = (.error .unexpectedEnd, source) := by
  have halign : align.run ⟨position, bits⟩ =
      (.ok (), ⟨position + padding position, bits.drop (padding position)⟩) := rfl
  rw [takeBytes, run_bind_ok halign, run_bind_ok (run_get _)]
  cases hs : splitBits? (8 * count) (bits.drop (padding position)) with
  | none => exact .inr ⟨_, rfl⟩
  | some split =>
    obtain ⟨front, rest⟩ := split
    obtain ⟨hbits, hlength⟩ := eq_append_of_splitBits? hs
    exact .inl ⟨front, rest, hbits, hlength, rfl⟩

theorem reads_takeBytes (bytes : List UInt8) :
    (takeBytes bytes.length).Reads [.bytes bytes] bytes := by
  intro position behind
  -- the bytes stand behind the zeros that align them
  have hl : layout position [.bytes bytes] ++ behind =
      List.replicate (padding position) false ++ (bitsOfBytes bytes ++ behind) := by
    simp [layout]
  have ha : align.run ⟨position, layout position [.bytes bytes] ++ behind⟩ =
      (.ok (), ⟨position + padding position, bitsOfBytes bytes ++ behind⟩) := by
    rw [align, run_bind_ok (run_get _), hl]
    show (Except.ok (), (⟨_, List.drop (padding position) _⟩ : BitSource)) = _
    rw [List.drop_left' (by simp)]
  have hs := splitBits?_append (bitsOfBytes bytes) behind
  rw [length_bitsOfBytes] at hs
  rw [takeBytes, run_bind_ok ha, run_bind_ok (run_get _)]
  simp only [hs]
  show (Except.ok (bytesOfBits (bitsOfBytes bytes)), _) = _
  rw [bytesOfBits_bitsOfBytes]
  rfl

/-- A number is read as far as the width reaches. -/
theorem reads_readBits {width : Nat} (hw : width ≤ 64) (value : Nat) :
    (readBits width).Reads [.bits (bitsOf width value)] (value % (1 <<< width)) := by
  have h := (reads_takeBits (bitsOf width value)).map fun bits =>
    bitsValue bits % 0x10000000000000000
  -- a word has room for the value, so nothing is cut off
  have hle : 1 <<< width ≤ 0x10000000000000000 := by
    rw [Nat.one_shiftLeft]
    exact Nat.pow_le_pow_right (by decide) hw
  have hlt : value % (1 <<< width) < 1 <<< width :=
    Nat.mod_lt _ (by rw [Nat.one_shiftLeft]; exact Nat.two_pow_pos width)
  rwa [length_bitsOf, bitsValue_bitsOf, Nat.mod_eq_of_lt (Nat.lt_of_lt_of_le hlt hle)] at h

theorem reads_readBits_of_lt {width value : Nat} (hw : width ≤ 64) (hv : value < 1 <<< width) :
    (readBits width).Reads [.bits (bitsOf width value)] value := by
  have h := reads_readBits hw value
  rwa [Nat.mod_eq_of_lt hv] at h

theorem reads_readBool (flag : Bool) : readBool.Reads [.bits [flag]] flag := by
  have h := (reads_takeBits [flag]).map (· == [true])
  cases flag <;> exact h

/-! ### Repetition -/

/-- What a reader does to each of several values, its repetition does to all of them. -/
theorem readsIf_readMany {item : PackReader α} {written : α → List Chunk} {good : α → Prop}
    {as : List α} (h : ∀ a ∈ as, item.ReadsIf (written a) (good a) a) :
    (readMany item as.length).ReadsIf (as.flatMap written) (∀ a ∈ as, good a) as := by
  induction as with
  | nil => exact (readsIf_pure []).congr (by simp)
  | cons a as ih =>
    -- the list is refused if its first element is, or else if a later one is
    have hrest := (ih fun b hb => h b (List.mem_cons_of_mem a hb)).map (a :: ·)
    exact ((h a List.mem_cons_self).bind hrest).congr List.forall_mem_cons.symm

end PackReader

end Phrasebook
