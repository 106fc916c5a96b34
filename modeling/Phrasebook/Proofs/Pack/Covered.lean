import Phrasebook.Proofs.Message.Nodes
import Phrasebook.Proofs.Pack.Messages

/-! # Packs have bits for all that is read from them

    A count in a pack may be any integer, but every round of a loop takes bits. So the values that a
    reader gives are *covered*: what they cost, in nodes of trees, is paid with the bits that were
    taken for them. And loops *end*: a count beyond the bits that are left makes a loop fail, in a
    round that does not depend on the count.

    Credit is what the steps in front have paid for and not spent. -/

namespace Phrasebook

namespace PackReader

/-! ### Cover -/

section Cover

variable {α β : Type} {reader : PackReader α} {next : α → PackReader β} {credit : Nat}
  {price cost : α → Nat} {total : β → Nat}

/-- The cost of a value is at most the credit and the bits that are taken for it. -/
def Covers (reader : PackReader α) (credit : Nat) (cost : α → Nat) : Prop :=
  ∀ source a source', reader.run source = (.ok a, source') →
    cost a + source'.rest.length ≤ credit + source.rest.length

theorem covers_pure {a : α} (h : cost a ≤ credit) : (pure a : PackReader α).Covers credit cost := by
  intro source b source' hrun
  obtain ⟨hb, rfl⟩ := Prod.mk.inj hrun
  obtain rfl := Except.ok.inj hb
  exact Nat.add_le_add_right h _

theorem covers_throw (error : PackError) : (throw error : PackReader α).Covers credit cost := by
  intro source a source' hrun
  cases (Prod.mk.inj hrun).1

theorem covers_refuse (contradiction : Inconsistency) :
    (refuse contradiction : PackReader α).Covers credit cost :=
  covers_throw _

/-- More credit pays for more, and less may be asked for. -/
theorem Covers.le {less : Nat} (h : reader.Covers less price)
    (hle : ∀ a, cost a + less ≤ credit + price a) : reader.Covers credit cost := by
  intro source a source' hrun
  have hpaid := h source a source' hrun
  have hcost := hle a
  omega

/-- What the first step pays is credit of the second one. -/
theorem Covers.bind (h : reader.Covers 0 price)
    (hnext : ∀ a, (next a).Covers (credit + price a) total) :
    (reader >>= next).Covers credit total := by
  intro source b source' hrun
  rw [run_bind] at hrun
  split at hrun
  · rename_i a middle hread
    have hfirst := h source a middle hread
    have hsecond := hnext a middle b source' hrun
    omega
  · cases (Prod.mk.inj hrun).1

/-- A last step that only wraps the value. -/
theorem Covers.map {f : α → β} (h : reader.Covers 0 price)
    (hf : ∀ a, total (f a) ≤ credit + price a) :
    (reader >>= fun a => pure (f a)).Covers credit total := by
  refine h.bind ?_
  intro a
  exact covers_pure (hf a)

theorem Covers.ite {condition : Prop} [Decidable condition] {other : PackReader α}
    (h : reader.Covers credit cost) (ho : other.Covers credit cost) :
    (if condition then reader else other).Covers credit cost := by
  split
  · exact h
  · exact ho

theorem covers_readMany {item : PackReader α} (h : item.Covers 0 price) (count : Nat) :
    (readMany item count).Covers 0 fun as => (as.map price).sum := by
  induction count with
  | zero => exact covers_pure (Nat.le_refl 0)
  | succ count ih =>
    refine h.bind ?_
    intro first
    refine ih.map ?_
    intro rest
    rw [List.map_cons, List.sum_cons, Nat.zero_add]

end Cover

/-! ### Bits and fields -/

theorem covers_takeBits (count : Nat) : (takeBits count).Covers 0 fun _ => count := by
  rintro ⟨position, bits⟩ taken source' hrun
  rcases run_takeBits_cases count position bits with ⟨front, rest, rfl, rfl, htake⟩ | ⟨_, hend⟩
  · obtain ⟨-, rfl⟩ := Prod.mk.inj (htake.symm.trans hrun)
    rw [List.length_append, Nat.zero_add]
  · cases (Prod.mk.inj (hend.symm.trans hrun)).1

theorem covers_takeBytes (count : Nat) : (takeBytes count).Covers 0 fun _ => 0 := by
  rintro ⟨position, bits⟩ bytes source' hrun
  rcases run_takeBytes_cases count position bits with ⟨front, rest, hbits, -, htake⟩ | ⟨_, hend⟩
  · obtain ⟨-, rfl⟩ := Prod.mk.inj (htake.symm.trans hrun)
    -- the gap and the bytes are in front of the rest
    have hlength := congrArg List.length hbits
    rw [List.length_drop, List.length_append] at hlength
    simp only
    omega
  · cases (Prod.mk.inj (hend.symm.trans hrun)).1

theorem covers_readBits (width : Nat) : (readBits width).Covers 0 fun _ => width :=
  (covers_takeBits width).map fun _ => Nat.le_of_eq (Nat.zero_add width).symm

theorem covers_readTag (width : Nat) : (readTag width).Covers 0 fun _ => width :=
  (covers_readBits width).map fun _ => Nat.le_of_eq (Nat.zero_add width).symm

theorem covers_readBool : readBool.Covers 0 fun _ => 1 :=
  (covers_takeBits 1).map fun _ => Nat.le_refl 1

theorem covers_readClass : readClass.Covers 0 fun _ => 0 := by
  rintro ⟨position, bits⟩ c source' hrun
  rcases run_readClass_cases position bits with ⟨d, -, rest, rfl, hclass⟩ | ⟨_, hend⟩
  · obtain ⟨-, rfl⟩ := Prod.mk.inj (hclass.symm.trans hrun)
    rw [List.length_append, Nat.zero_add, Nat.zero_add]
    exact Nat.le_add_left _ _
  · cases (Prod.mk.inj (hend.symm.trans hrun)).1

theorem covers_readInteger : readInteger.Covers 0 fun _ => 0 := by
  refine covers_readClass.bind ?_
  intro c
  refine (covers_readBits c.width).bind ?_
  intro number
  cases int64OfInt? (c.member number) with
  | some value => exact covers_pure (Nat.zero_le _)
  | none => exact covers_refuse _

theorem covers_readCount : readCount.Covers 0 fun _ => 1 := by
  -- the first bit pays, whatever the form is
  refine covers_readBool.bind ?_
  intro one
  refine Covers.ite ((covers_readBits 3).le fun _ => by decide) ?_
  refine covers_readBool.bind ?_
  intro two
  refine Covers.ite ((covers_readBits 3).map fun _ => by decide) ?_
  refine covers_readInteger.bind ?_
  intro value
  exact Covers.ite (covers_refuse _) (covers_pure (by decide))

theorem covers_readLength : readLength.Covers 0 fun _ => 2 := by
  refine (covers_readBits 2).bind ?_
  intro form
  match form with
  | 0 => exact covers_pure (by decide)
  | 1 => exact (covers_readBits 4).map fun _ => by decide
  | 2 => exact (covers_readBits 8).map fun _ => by decide
  | form + 3 =>
    refine covers_readInteger.bind ?_
    intro value
    exact Covers.ite (covers_refuse _) (covers_pure (by decide))

theorem covers_readTextOf (length : Nat) : (readTextOf length).Covers 0 fun _ => 0 := by
  unfold readTextOf
  split
  · exact covers_pure (Nat.le_refl 0)
  · refine (covers_takeBytes length).bind ?_
    intro bytes
    cases readUtf8 bytes with
    | ok text => exact covers_pure (Nat.le_refl 0)
    | error defect => exact covers_throw _

theorem covers_readOptional : readOptional.Covers 0 fun _ => 2 := by
  refine covers_readLength.bind ?_
  intro length
  cases length with
  | none => exact covers_pure (by decide)
  | some length => exact (covers_readTextOf length).map fun _ => by decide

theorem covers_readText (what : String) : (readText what).Covers 0 fun _ => 2 := by
  refine covers_readOptional.bind ?_
  intro text
  cases text with
  | none => exact covers_refuse _
  | some text => exact covers_pure (by decide)

theorem covers_readRelation : readRelation.Covers 0 fun _ => 3 := by
  refine (covers_readTag 3).bind ?_
  intro tag
  cases Comparator.ofOrdinal? tag with
  | none => exact covers_throw _
  | some relation => exact covers_pure (by decide)

/-- The tag of a key pays for an entry. -/
theorem covers_readKey : readKey.Covers 0 fun _ => 3 := by
  refine (covers_readTag 3).bind ?_
  intro tag
  match tag with
  | 0 => exact covers_readBool.map fun _ => by decide
  | 1 => exact covers_readRelation.map fun _ => by decide
  | 2 => exact (covers_readText "key name").map fun _ => by decide
  | 3 => exact covers_readRelation.map fun _ => by decide
  | 4 =>
    refine covers_readRelation.bind ?_
    intro relation
    exact covers_readInteger.map fun _ => by decide
  | 5 =>
    refine covers_readRelation.bind ?_
    intro relation
    exact (covers_readText "key string").map fun _ => by decide
  | tag + 6 => exact covers_throw _

/-! ### Messages -/

section Inner

variable {message : PackReader Message} (h : message.Covers 0 Message.nodes)

include h

/-- The tag of a value pays for it as a value for everything else. -/
theorem covers_readValue : (readValue message).Covers 0 fun value => value.nodes + 2 := by
  refine (covers_readTag 2).bind ?_
  intro tag
  match tag with
  | 0 => exact covers_readBool.map fun _ => by simp [SettingValue.nodes]
  | 1 =>
    refine h.map ?_
    intro inner
    simp only [SettingValue.nodes]
    omega
  | 2 => exact covers_readInteger.map fun _ => by simp [SettingValue.nodes]
  | 3 => exact (covers_readText "config value").map fun _ => by simp [SettingValue.nodes]
  | tag + 4 => exact covers_throw _

/-- Entries are paid for, given that those are which are there already. -/
theorem covers_readEntries (count : Nat) (settings : Settings SettingValue) :
    (readEntries message count settings).Covers (Settings.nodes settings) Settings.nodes := by
  induction count generalizing settings with
  | zero => exact covers_pure (Nat.le_refl _)
  | succ count ih =>
    refine covers_readKey.bind ?_
    intro key
    refine (covers_readValue h).bind ?_
    intro value
    cases hi : settings.insert key value with
    | ok settings' =>
      -- the key and the value have paid for the entry that is added
      have hnodes := Settings.nodes_insert hi
      refine (ih settings').le ?_
      intro result
      omega
    | error _ => exact covers_refuse _

theorem covers_readSettings : (readSettings message).Covers 0 Settings.nodes := by
  have hentries (count : Nat) :
      (readEntries message count {}).Covers 0 (Settings.nodes : Settings SettingValue → Nat) :=
    covers_readEntries h count {}
  refine covers_readCount.bind ?_
  intro count
  refine (hentries count).bind ?_
  intro settings
  refine covers_readBool.bind ?_
  intro more
  refine Covers.ite ?_ (covers_pure (by omega))
  refine (covers_readValue h).map ?_
  intro value
  have hnodes := Settings.nodes_otherwise_le settings value
  omega

/-- The tag of a part pays for it. -/
theorem covers_readPart : (readPart message).Covers 0 Part.nodes := by
  have hliteral (text : Literal) {paid : Nat} (hpaid : 1 ≤ paid) :
      (Part.literal text).nodes ≤ paid := hpaid
  refine (covers_readTag 2).bind ?_
  intro tag
  match tag with
  | 0 => exact (covers_readText "text").map fun text => hliteral { text } (by decide)
  | 1 =>
    refine covers_readBool.bind ?_
    intro before
    refine covers_readBool.bind ?_
    intro after
    exact (covers_readText "text").map fun text => hliteral ⟨text, before, after⟩ (by decide)
  | 2 =>
    refine covers_readBool.bind ?_
    intro before
    refine covers_readBool.bind ?_
    intro after
    refine (covers_readText "parameter name").bind ?_
    intro name
    refine covers_readOptional.bind ?_
    intro format
    refine (covers_readSettings h).map ?_
    intro settings
    simp only [Part.nodes, Placeholder.nodes]
    omega
  | tag + 3 => exact covers_throw _

/-- The name of the locale pays for a variant. -/
theorem covers_readVariant :
    (readVariant message).Covers 0 fun variant => variant.2.nodes + 1 := by
  refine (covers_readText "locale").bind ?_
  intro tag
  cases Locale.parse tag with
  | error e => exact covers_refuse _
  | ok locale =>
    refine h.bind ?_
    intro variant
    refine Covers.ite (covers_pure ?_) (covers_refuse _)
    simp only
    omega

end Inner

/-- The tag of a message pays for it, and what is below is paid for already. -/
theorem covers_readMessage (budget : Nat) : (readMessage budget).Covers 0 Message.nodes := by
  induction budget with
  | zero => exact covers_refuse _
  | succ budget ih =>
    refine (covers_readTag 3).bind ?_
    intro tag
    match tag with
    | 0 => exact covers_pure (by decide)
    | 1 =>
      refine (covers_readPart ih).map ?_
      intro part
      rw [Message.nodes]
      omega
    | 2 =>
      refine covers_readCount.bind ?_
      intro count
      refine Covers.ite (covers_refuse _) ?_
      refine (covers_readMany (covers_readPart ih) count).map ?_
      intro parts
      rw [Message.nodes, Part.nodesAll_eq_sum]
      omega
    | 3 =>
      refine covers_readCount.bind ?_
      intro count
      refine (covers_readMany (covers_readVariant ih) count).bind ?_
      intro variants
      refine Covers.ite (covers_refuse _) (covers_pure ?_)
      rw [Message.nodes, Message.nodesVariants_eq_sum]
      omega
    | 4 =>
      refine (covers_readText "message code").bind ?_
      intro code
      refine ih.bind ?_
      intro message
      refine Covers.ite (covers_refuse _) (covers_pure ?_)
      rw [Message.nodes]
      omega
    | tag + 5 => exact covers_throw _

theorem covers_readBody :
    readBody.Covers 0 fun messages => (messages.map Message.nodes).sum := by
  refine covers_readCount.bind ?_
  intro count
  refine (covers_readMany (covers_readMessage nestingLimit) count).le ?_
  intro messages
  omega

/-! ### Loops -/

section Loops

variable {α σ : Type}

/-- Whatever a count beyond the bits that are left is, the loop fails in the same way: it does not
    get to the rounds that would make a difference. -/
def EndsWithBits (loop : Nat → PackReader α) : Prop :=
  ∀ source : BitSource, ∃ error source', ∀ count, source.rest.length < count →
    (loop count).run source = (.error error, source')

/-- A loop ends with the bits if a round either fails, or takes a bit and fails where the rounds
    behind it fail. -/
theorem endsWithBits_of_round (loop : σ → Nat → PackReader α)
    (hround : ∀ state source,
      (∃ error source', ∀ count, (loop state (count + 1)).run source = (.error error, source')) ∨
      ∃ state' middle, middle.rest.length < source.rest.length ∧ ∀ count error source',
        (loop state' count).run middle = (.error error, source') →
          (loop state (count + 1)).run source = (.error error, source'))
    (state : σ) : EndsWithBits (loop state) := by
  intro source
  -- a round leaves fewer bits, so the induction is on their number, and the count is left open
  induction hn : source.rest.length using Nat.strongRecOn generalizing state source with
  | ind n ih =>
    subst hn
    rcases hround state source with ⟨error, source', hfail⟩ | ⟨state', middle, hlt, hpass⟩
    · refine ⟨error, source', fun count hcount => ?_⟩
      obtain ⟨rounds, rfl⟩ := Nat.exists_eq_add_one_of_ne_zero (by omega : count ≠ 0)
      exact hfail rounds
    · obtain ⟨error, source', hrest⟩ := ih _ hlt state' middle rfl
      refine ⟨error, source', fun count hcount => ?_⟩
      obtain ⟨rounds, rfl⟩ := Nat.exists_eq_add_one_of_ne_zero (by omega : count ≠ 0)
      exact hpass rounds error source' (hrest rounds (by omega))

/-- Items that cost something take bits. -/
theorem Covers.endsWithBits_readMany {item : PackReader α} {price : α → Nat}
    (h : item.Covers 0 price) (hpos : ∀ a, 0 < price a) : EndsWithBits (readMany item) := by
  refine endsWithBits_of_round (fun (_ : Unit) => readMany item) ?_ ()
  intro _ source
  rcases hitem : item.run source with ⟨error | first, middle⟩
  · exact .inl ⟨error, middle, fun count => run_bind_error hitem⟩
  · refine .inr ⟨(), middle, ?_, fun count error source' hrest => ?_⟩
    · have hpaid := h source first middle hitem
      have hprice := hpos first
      omega
    · rw [readMany, run_bind_ok hitem, run_bind_error hrest]

/-- An entry takes the bits of its key. -/
theorem endsWithBits_readEntries {message : PackReader Message}
    (h : message.Covers 0 Message.nodes) (settings : Settings SettingValue) :
    EndsWithBits fun count => readEntries message count settings := by
  refine endsWithBits_of_round (fun settings count => readEntries message count settings) ?_ settings
  intro settings source
  rcases hkey : readKey.run source with ⟨error | key, behindKey⟩
  · exact .inl ⟨error, behindKey, fun count => run_bind_error hkey⟩
  rcases hvalue : (readValue message).run behindKey with ⟨error | value, middle⟩
  · refine .inl ⟨error, middle, fun count => ?_⟩
    rw [readEntries, run_bind_ok hkey, run_bind_error hvalue]
  cases hi : settings.insert key value with
  | error _ =>
    refine .inl ⟨.inconsistent (.duplicateKey key), middle, fun count => ?_⟩
    rw [readEntries, run_bind_ok hkey, run_bind_ok hvalue]
    simp only [hi]
    rfl
  | ok settings' =>
    refine .inr ⟨settings', middle, ?_, fun count error source' hrest => ?_⟩
    · have hpaid := covers_readKey source key behindKey hkey
      have hpaid' := covers_readValue h behindKey value middle hvalue
      simp only at hpaid hpaid'
      omega
    · rw [readEntries, run_bind_ok hkey, run_bind_ok hvalue]
      simp only [hi]
      exact hrest

end Loops

end PackReader

/-! ### Packs -/

/-- A pack that is unpacked has at most as many nodes in its messages as its body has bits, whatever
    the counts in it say. Counts beyond the bits that are left change nothing: every loop of the
    reader ends where the bits do. -/
theorem unpackMessages_bounded :
    (∀ pack body messages, openBody pack = .ok body → unpackMessages pack = .ok messages →
      (messages.map Message.nodes).sum ≤ 8 * body.length) ∧
    (∀ budget,
      PackReader.EndsWithBits (PackReader.readMany (PackReader.readMessage budget)) ∧
      PackReader.EndsWithBits
        (PackReader.readMany (PackReader.readPart (PackReader.readMessage budget))) ∧
      PackReader.EndsWithBits
        (PackReader.readMany (PackReader.readVariant (PackReader.readMessage budget))) ∧
      ∀ settings, PackReader.EndsWithBits fun count =>
        PackReader.readEntries (PackReader.readMessage budget) count settings) := by
  constructor
  · intro pack body messages hopen hunpack
    simp only [unpackMessages, hopen] at hunpack
    have hpaid := PackReader.covers_readBody (.ofBytes body) messages _ (Prod.ext hunpack rfl)
    simp only [BitSource.ofBytes, length_bitsOfBytes] at hpaid
    omega
  · intro budget
    have hmessage := PackReader.covers_readMessage budget
    exact ⟨hmessage.endsWithBits_readMany Message.nodes_pos,
      (PackReader.covers_readPart hmessage).endsWithBits_readMany Part.nodes_pos,
      (PackReader.covers_readVariant hmessage).endsWithBits_readMany fun _ => Nat.succ_pos _,
      PackReader.endsWithBits_readEntries hmessage⟩

/-- A place with an entry and a message for everything else, and a byte that is passed over. No count
    above 104 in front of the same bits makes a difference. -/
theorem unpackMessages_bounded_place :
    let settings : Settings SettingValue :=
      ⟨[(.bool true, .string ⟨"\\'", "'"⟩)], some (.message (.single (.literal { text := "m" })))⟩
    let message : Message := .single (.placeholder ⟨"n", none, settings, false, false⟩)
    let pack := packMark ++
      [headerByte false, 0x13, 0x08, 0x80, 0x6E, 0x04, 0x74, 0x80, 0x5C, 0x27, 0xA4, 0x44, 0x6D, 0xFF]
    unpackMessages pack = .ok [message] ∧ message.nodes = 6 ∧
      ([message].map Message.nodes).sum ≤ 104 ∧
      ∃ error source, ∀ count > 104,
        (PackReader.readMany (PackReader.readMessage nestingLimit) count).run
          (.ofBytes (pack.drop headerSize)) = (.error error, source) := by
  intro settings message pack
  have hread : unpackMessages pack = .ok [message] := rfl
  have hopen : openBody pack = .ok (pack.drop headerSize) := rfl
  have hbits : (BitSource.ofBytes (pack.drop headerSize)).rest.length = 104 := rfl
  obtain ⟨hnodes, hends⟩ := unpackMessages_bounded
  have hmessages := (hends nestingLimit).1 (.ofBytes (pack.drop headerSize))
  rw [hbits] at hmessages
  exact ⟨hread, rfl, hnodes pack _ _ hopen hread, hmessages⟩

end Phrasebook
