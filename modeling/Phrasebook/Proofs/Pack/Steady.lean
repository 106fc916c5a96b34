import Phrasebook.Pack.Reading
import Phrasebook.Proofs.Pack.Fields

/-! # Steady readers

    A reader is *steady* if bits behind those that it reads do not change what it does. On a front of
    some bits it goes on as on all of them, until it needs a bit that is missing and ends there.
    Every reader of packs is steady, whatever the bits are: the marks of integers tell themselves
    apart before they end, and where the gap in front of a text is cut off, so is the text. -/

namespace Phrasebook

namespace PackReader

variable {α β : Type} {reader : PackReader α} {next : α → PackReader β}

/-! ### Steady readers -/

/-- Either the bits do not suffice, or more bits behind them change nothing. -/
def Steady (reader : PackReader α) : Prop :=
  ∀ position bits,
    (∃ source, reader.run ⟨position, bits⟩ = (.error .unexpectedEnd, source)) ∨
    ∃ result position' rest, ∀ behind,
      reader.run ⟨position, bits ++ behind⟩ = (result, ⟨position', rest ++ behind⟩)

theorem steady_pure (a : α) : (pure a : PackReader α).Steady :=
  fun position bits => .inr ⟨.ok a, position, bits, fun _ => rfl⟩

theorem steady_throw (error : PackError) : (throw error : PackReader α).Steady :=
  fun position bits => .inr ⟨.error error, position, bits, fun _ => rfl⟩

theorem steady_refuse (contradiction : Inconsistency) :
    (refuse contradiction : PackReader α).Steady :=
  steady_throw _

theorem Steady.bind (h : reader.Steady) (hn : ∀ a, (next a).Steady) :
    (reader >>= next).Steady := by
  intro position bits
  rcases h position bits with ⟨source, hend⟩ | ⟨result, position', rest, hrun⟩
  · exact .inl ⟨source, run_bind_error hend⟩
  cases result with
  | error e => exact .inr ⟨.error e, position', rest, fun behind => run_bind_error (hrun behind)⟩
  | ok a =>
    -- the second step goes on with what the first one leaves
    rcases hn a position' rest with ⟨source, hend⟩ | ⟨result, position'', rest', hrun'⟩
    · refine .inl ⟨source, ?_⟩
      have h0 := hrun []
      rw [List.append_nil, List.append_nil] at h0
      rw [run_bind_ok h0, hend]
    · refine .inr ⟨result, position'', rest', fun behind => ?_⟩
      rw [run_bind_ok (hrun behind), hrun']

theorem Steady.map (h : reader.Steady) (f : α → β) : (reader >>= fun a => pure (f a)).Steady :=
  h.bind fun a => steady_pure (f a)

theorem Steady.ite {condition : Prop} [Decidable condition] {other : PackReader α}
    (h : reader.Steady) (ho : other.Steady) : (if condition then reader else other).Steady := by
  split
  · exact h
  · exact ho

theorem steady_readMany {item : PackReader α} (h : item.Steady) (count : Nat) :
    (readMany item count).Steady := by
  induction count with
  | zero => exact steady_pure []
  | succ count ih => exact h.bind fun first => ih.map (first :: ·)

/-- Either there are too few bits, or those behind the ones that are cut off stay behind. -/
theorem splitBits?_append_cases (count : Nat) (bits : Bits) :
    splitBits? count bits = none ∨
      ∃ front rest, ∀ behind, splitBits? count (bits ++ behind) = some (front, rest ++ behind) := by
  cases h : splitBits? count bits with
  | none => exact .inl rfl
  | some split =>
    obtain ⟨front, rest⟩ := split
    obtain ⟨rfl, rfl⟩ := eq_append_of_splitBits? h
    refine .inr ⟨front, rest, fun behind => ?_⟩
    rw [List.append_assoc, splitBits?_append]

theorem steady_takeBits (count : Nat) : (takeBits count).Steady := by
  intro position bits
  rcases splitBits?_append_cases count bits with h | ⟨front, rest, h⟩
  · refine .inl ⟨⟨position + bits.length, []⟩, ?_⟩
    rw [takeBits, run_bind_ok (run_get _)]
    simp only [h]
    rfl
  · refine .inr ⟨.ok front, position + count, rest, fun behind => ?_⟩
    rw [takeBits, run_bind_ok (run_get _)]
    simp only [h]
    rfl

/-- Where the gap in front of the bytes is not complete, no byte follows either. -/
theorem steady_takeBytes {count : Nat} (hcount : 0 < count) : (takeBytes count).Steady := by
  intro position bits
  have halign (behind : Bits) : align.run ⟨position, bits ++ behind⟩ =
      (.ok (), ⟨position + padding position, (bits ++ behind).drop (padding position)⟩) := rfl
  by_cases hgap : padding position ≤ bits.length
  · have hdrop (behind : Bits) : (bits ++ behind).drop (padding position) =
        bits.drop (padding position) ++ behind := List.drop_append_of_le_length hgap
    rcases splitBits?_append_cases (8 * count) (bits.drop (padding position)) with
      h | ⟨front, rest, h⟩
    · refine .inl ⟨⟨position + padding position, bits.drop (padding position)⟩, ?_⟩
      have h0 := halign []
      rw [List.append_nil] at h0
      rw [takeBytes, run_bind_ok h0, run_bind_ok (run_get _)]
      simp only [h]
      rfl
    · refine .inr ⟨.ok (bytesOfBits front), position + padding position + 8 * count, rest,
        fun behind => ?_⟩
      rw [takeBytes, run_bind_ok (halign behind), run_bind_ok (run_get _), hdrop]
      simp only [h]
      rfl
  · refine .inl ⟨⟨position + padding position, []⟩, ?_⟩
    have h0 := halign []
    rw [List.append_nil, List.drop_eq_nil_of_le (by omega)] at h0
    obtain ⟨width, hwidth⟩ : ∃ width, 8 * count = width + 1 := ⟨8 * count - 1, by omega⟩
    rw [takeBytes, run_bind_ok h0, run_bind_ok (run_get _)]
    simp only [hwidth, splitBits?]
    rfl

/-! ### Fields -/

theorem steady_readBits (width : Nat) : (readBits width).Steady :=
  (steady_takeBits width).map fun bits => bitsValue bits % 0x10000000000000000

theorem steady_readTag (width : Nat) : (readTag width).Steady :=
  (steady_readBits width).map (· % 0x100)

theorem steady_readBool : readBool.Steady :=
  (steady_takeBits 1).map (· == [true])

/-- No mark begins another one, so a mark that is complete is not read as a longer one. -/
theorem steady_readClass : readClass.Steady := by
  intro position bits
  rcases run_readClass_cases position bits with ⟨c, hc, rest, rfl, -⟩ | hend
  · refine .inr ⟨.ok c, position + c.mark.length, rest, fun behind => ?_⟩
    have hread := reads_readClass hc position (rest ++ behind)
    have hlayout : layout position [.bits c.mark] = c.mark := List.append_nil c.mark
    rwa [hlayout, ← List.append_assoc] at hread
  · exact .inl hend

theorem steady_readInteger : readInteger.Steady := by
  refine steady_readClass.bind fun c => (steady_readBits c.width).bind fun number => ?_
  cases int64OfInt? (c.member number) with
  | some value => exact steady_pure value
  | none => exact steady_refuse _

theorem steady_readCount : readCount.Steady := by
  refine steady_readBool.bind fun one => Steady.ite (steady_readBits 3) ?_
  refine steady_readBool.bind fun two => Steady.ite ((steady_readBits 3).map (· + 8)) ?_
  exact steady_readInteger.bind fun value => Steady.ite (steady_refuse _) (steady_pure _)

theorem steady_readLength : readLength.Steady := by
  refine (steady_readBits 2).bind fun form => ?_
  match form with
  | 0 => exact steady_pure none
  | 1 => exact (steady_readBits 4).map some
  | 2 => exact (steady_readBits 8).map some
  | form + 3 =>
    exact steady_readInteger.bind fun value => Steady.ite (steady_refuse _) (steady_pure _)

theorem steady_readTextOf (length : Nat) : (readTextOf length).Steady := by
  unfold readTextOf
  split
  · exact steady_pure ""
  · refine (steady_takeBytes (by omega)).bind fun bytes => ?_
    cases readUtf8 bytes with
    | ok text => exact steady_pure text
    | error defect => exact steady_throw _

theorem steady_readOptional : readOptional.Steady := by
  refine steady_readLength.bind fun length => ?_
  cases length with
  | none => exact steady_pure none
  | some length => exact (steady_readTextOf length).map some

theorem steady_readText (what : String) : (readText what).Steady := by
  refine steady_readOptional.bind fun text => ?_
  cases text with
  | none => exact steady_refuse _
  | some text => exact steady_pure text

theorem steady_readRelation : readRelation.Steady := by
  refine (steady_readTag 3).bind fun tag => ?_
  cases Comparator.ofOrdinal? tag with
  | none => exact steady_throw _
  | some relation => exact steady_pure relation

theorem steady_readKey : readKey.Steady := by
  refine (steady_readTag 3).bind fun tag => ?_
  match tag with
  | 0 => exact steady_readBool.map SettingKey.bool
  | 1 => exact steady_readRelation.map SettingKey.empty
  | 2 => exact (steady_readText "key name").map SettingKey.name
  | 3 => exact steady_readRelation.map SettingKey.null
  | 4 =>
    exact steady_readRelation.bind fun relation =>
      steady_readInteger.map (SettingKey.number relation)
  | 5 =>
    exact steady_readRelation.bind fun relation =>
      (steady_readText "key string").map (SettingKey.string relation)
  | tag + 6 => exact steady_throw _

/-! ### Messages -/

section Inner

variable {message : PackReader Message} (h : message.Steady)

include h

theorem steady_readValue : (readValue message).Steady := by
  refine (steady_readTag 2).bind fun tag => ?_
  match tag with
  | 0 => exact steady_readBool.map SettingValue.bool
  | 1 => exact h.map SettingValue.message
  | 2 => exact steady_readInteger.map SettingValue.number
  | 3 =>
    exact (steady_readText "config value").map fun source => SettingValue.string (.ofSource source)
  | tag + 4 => exact steady_throw _

theorem steady_readEntries (count : Nat) (settings : Settings SettingValue) :
    (readEntries message count settings).Steady := by
  induction count generalizing settings with
  | zero => exact steady_pure settings
  | succ count ih =>
    refine steady_readKey.bind fun key => (steady_readValue h).bind fun value => ?_
    cases settings.insert key value with
    | ok settings => exact ih settings
    | error _ => exact steady_refuse _

theorem steady_readSettings : (readSettings message).Steady := by
  refine steady_readCount.bind fun count => (steady_readEntries h count {}).bind fun settings => ?_
  refine steady_readBool.bind fun flag => Steady.ite ?_ (steady_pure settings)
  exact (steady_readValue h).map fun value => { settings with otherwise := some value }

theorem steady_readPart : (readPart message).Steady := by
  refine (steady_readTag 2).bind fun tag => ?_
  match tag with
  | 0 => exact (steady_readText "text").map fun text => Part.literal { text }
  | 1 =>
    refine steady_readBool.bind fun before => steady_readBool.bind fun after => ?_
    exact (steady_readText "text").map fun text => Part.literal ⟨text, before, after⟩
  | 2 =>
    refine steady_readBool.bind fun before => steady_readBool.bind fun after => ?_
    refine (steady_readText "parameter name").bind fun name => ?_
    refine steady_readOptional.bind fun format => ?_
    exact (steady_readSettings h).map fun settings =>
      Part.placeholder ⟨name, format, settings, before, after⟩
  | tag + 3 => exact steady_throw _

theorem steady_readVariant : (readVariant message).Steady := by
  refine (steady_readText "locale").bind fun tag => ?_
  cases Locale.parse tag with
  | error e => exact steady_refuse _
  | ok locale =>
    exact h.bind fun variant => Steady.ite (steady_pure (locale, variant)) (steady_refuse _)

end Inner

theorem steady_readMessage (budget : Nat) : (readMessage budget).Steady := by
  induction budget with
  | zero => exact steady_refuse _
  | succ budget ih =>
    refine (steady_readTag 3).bind fun tag => ?_
    match tag with
    | 0 => exact steady_pure Message.empty
    | 1 => exact (steady_readPart ih).map Message.single
    | 2 =>
      refine steady_readCount.bind fun count => Steady.ite (steady_refuse _) ?_
      exact (steady_readMany (steady_readPart ih) count).map Message.multiple
    | 3 =>
      refine steady_readCount.bind fun count => ?_
      refine (steady_readMany (steady_readVariant ih) count).bind fun variants => ?_
      exact Steady.ite (steady_refuse _) (steady_pure _)
    | 4 =>
      refine (steady_readText "message code").bind fun code => ih.bind fun message => ?_
      exact Steady.ite (steady_refuse _) (steady_pure _)
    | tag + 5 => exact steady_throw _

theorem steady_readBody : readBody.Steady :=
  steady_readCount.bind fun count => steady_readMany (steady_readMessage nestingLimit) count

end PackReader

end Phrasebook
