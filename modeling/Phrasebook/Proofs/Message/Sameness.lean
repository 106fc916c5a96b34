import Phrasebook.Message.Sameness
import Phrasebook.Proofs.Message.Settings
import Phrasebook.Proofs.Message.Tree
import Phrasebook.Proofs.Text.Escapes

/-! # Sameness and equality

    Sameness passes over what strings stand for. Where every string stands for what its source does,
    nothing is passed over: nodes that are the same are equal.

    `AllQuoted` says a condition of every string in a node, those of the messages inside it
    included. -/

namespace Phrasebook

/-! ### Strings of a node -/

/-- The condition holds of every string in the message. -/
def Message.AllQuoted (p : QuotedText → Prop) : Message → Prop :=
  Message.Everywhere fun message =>
    ∀ place, .placeholder place ∈ message.parts → ∀ quoted ∈ place.quoted, p quoted

/-- The condition holds of every string in the value. -/
def SettingValue.AllQuoted (p : QuotedText → Prop) (value : SettingValue) : Prop :=
  (∀ quoted ∈ value.quoted?, p quoted) ∧ ∀ inner ∈ value.message?, inner.AllQuoted p

/-- The condition holds of every string in the part. -/
def Part.AllQuoted (p : QuotedText → Prop) : Part → Prop
  | .literal _ => True
  | .placeholder place => ∀ value ∈ place.settings.values, value.AllQuoted p

section AllQuoted

variable {p q : QuotedText → Prop}

theorem Message.AllQuoted.imp {message : Message} (hpq : ∀ quoted, p quoted → q quoted)
    (h : message.AllQuoted p) : message.AllQuoted q :=
  Everywhere.imp (fun _ hm place hp quoted hq => hpq quoted (hm place hp quoted hq)) h

theorem SettingValue.AllQuoted.imp {value : SettingValue} (hpq : ∀ quoted, p quoted → q quoted)
    (h : value.AllQuoted p) : value.AllQuoted q :=
  ⟨fun quoted hq => hpq quoted (h.1 quoted hq), fun inner hi => (h.2 inner hi).imp hpq⟩

theorem Part.AllQuoted.imp {part : Part} (hpq : ∀ quoted, p quoted → q quoted)
    (h : part.AllQuoted p) : part.AllQuoted q := by
  cases part with
  | literal text => trivial
  | placeholder place => exact fun value hv => (h value hv).imp hpq

/-- What is asked of a part is asked of its own strings and of the messages in it. -/
theorem Part.allQuoted_iff {part : Part} :
    part.AllQuoted p ↔
      (∀ place, part = .placeholder place → ∀ quoted ∈ place.quoted, p quoted) ∧
        ∀ inner ∈ part.inners, inner.AllQuoted p := by
  cases part with
  | literal text => simp [AllQuoted, inners]
  | placeholder place =>
    simp only [AllQuoted, SettingValue.AllQuoted, inners, Placeholder.quoted, List.mem_filterMap]
    constructor
    · intro h
      refine ⟨?_, ?_⟩
      · rintro other hother quoted ⟨value, hv, hq⟩
        obtain rfl := placeholder.inj hother
        exact (h value hv).1 quoted hq
      · rintro inner ⟨value, hv, hi⟩
        exact (h value hv).2 inner hi
    · rintro ⟨hquoted, hinners⟩ value hv
      exact ⟨fun quoted hq => hquoted place rfl quoted ⟨value, hv, hq⟩,
        fun inner hi => hinners inner ⟨value, hv, hi⟩⟩

namespace Message

/-- What is asked of a message of parts is asked of its parts. -/
theorem allQuoted_iff_parts {message : Message}
    (hm : message.inners = message.parts.flatMap Part.inners) :
    message.AllQuoted p ↔ ∀ part ∈ message.parts, part.AllQuoted p := by
  rw [AllQuoted, Everywhere.iff, hm]
  simp only [List.mem_flatMap]
  constructor
  · rintro ⟨hhere, hinners⟩ part hp
    refine Part.allQuoted_iff.2 ⟨?_, fun inner hi => hinners inner ⟨part, hp, hi⟩⟩
    rintro place rfl
    exact hhere place hp
  · intro h
    refine ⟨fun place hp => (Part.allQuoted_iff.1 (h _ hp)).1 place rfl, ?_⟩
    rintro inner ⟨part, hp, hi⟩
    exact (Part.allQuoted_iff.1 (h part hp)).2 inner hi

@[simp] theorem allQuoted_empty : Message.empty.AllQuoted p := by
  apply (allQuoted_iff_parts rfl).2
  simp [parts]

@[simp] theorem allQuoted_single {part : Part} :
    (Message.single part).AllQuoted p ↔ part.AllQuoted p :=
  (allQuoted_iff_parts rfl).trans List.forall_mem_singleton

@[simp] theorem allQuoted_multiple {parts : List Part} :
    (Message.multiple parts).AllQuoted p ↔ ∀ part ∈ parts, part.AllQuoted p :=
  allQuoted_iff_parts rfl

@[simp] theorem allQuoted_localized {variants : List (Locale × Message)} :
    (Message.localized variants).AllQuoted p ↔ ∀ variant ∈ variants, variant.2.AllQuoted p := by
  rw [AllQuoted, Everywhere.iff]
  simp only [inners, List.forall_mem_map, Message.parts, List.not_mem_nil, false_imp_iff,
    implies_true, true_and]

@[simp] theorem allQuoted_coded {code : String} {message : Message} :
    (Message.coded code message).AllQuoted p ↔ message.AllQuoted p := by
  rw [AllQuoted, Everywhere.iff]
  simp only [inners, List.forall_mem_singleton, Message.parts, List.not_mem_nil, false_imp_iff,
    implies_true, true_and]

end Message

@[simp] theorem SettingValue.allQuoted_string {quoted : QuotedText} :
    (SettingValue.string quoted).AllQuoted p ↔ p quoted := by
  simp [AllQuoted, quoted?, message?]

@[simp] theorem SettingValue.allQuoted_message {message : Message} :
    (SettingValue.message message).AllQuoted p ↔ message.AllQuoted p := by
  simp [AllQuoted, quoted?, message?]

end AllQuoted

/-! ### Nodes that are the same -/

/-- A source has one text, so strings with one source are equal. -/
theorem QuotedText.eq_of_same {a b : QuotedText} (ha : a.Faithful) (hb : b.Faithful)
    (h : a.same b = true) : a = b := by
  obtain ⟨source, text⟩ := a
  obtain ⟨source', text'⟩ := b
  obtain rfl : source = source' := by simpa [same] using h
  have htext : text = text' := ha.trans hb.symm
  rw [htext]

mutual

/-- Faithful messages that are the same are equal. -/
theorem Message.eq_of_same {a b : Message} (ha : a.AllQuoted QuotedText.Faithful)
    (hb : b.AllQuoted QuotedText.Faithful) (h : a.same b = true) : a = b := by
  cases a with
  | empty =>
    cases b with
    | empty => rfl
    | single _ | multiple _ | localized _ | coded _ _ => simp [Message.same] at h
  | single part =>
    cases b with
    | single part' =>
      rw [Message.allQuoted_single] at ha hb
      rw [Message.same] at h
      rw [Part.eq_of_same ha hb h]
    | empty | multiple _ | localized _ | coded _ _ => simp [Message.same] at h
  | multiple parts =>
    cases b with
    | multiple parts' =>
      rw [Message.allQuoted_multiple] at ha hb
      rw [Message.same] at h
      rw [Part.eq_of_sameAll ha hb h]
    | empty | single _ | localized _ | coded _ _ => simp [Message.same] at h
  | localized variants =>
    cases b with
    | localized variants' =>
      rw [Message.allQuoted_localized] at ha hb
      rw [Message.same] at h
      rw [Message.eq_of_sameVariants ha hb h]
    | empty | single _ | multiple _ | coded _ _ => simp [Message.same] at h
  | coded code message =>
    cases b with
    | coded code' message' =>
      rw [Message.allQuoted_coded] at ha hb
      simp only [Message.same, Bool.and_eq_true, beq_iff_eq] at h
      obtain ⟨rfl, h⟩ := h
      rw [Message.eq_of_same ha hb h]
    | empty | single _ | multiple _ | localized _ => simp [Message.same] at h
termination_by structural a

theorem Part.eq_of_same {a b : Part} (ha : a.AllQuoted QuotedText.Faithful)
    (hb : b.AllQuoted QuotedText.Faithful) (h : a.same b = true) : a = b := by
  cases a with
  | literal text =>
    cases b with
    | literal text' =>
      rw [show text = text' by simpa [Part.same] using h]
    | placeholder _ => simp [Part.same] at h
  | placeholder place =>
    cases b with
    | literal _ => simp [Part.same] at h
    | placeholder place' =>
      rw [Part.same] at h
      rw [Placeholder.eq_of_same ha hb h]
termination_by structural a

theorem Placeholder.eq_of_same {a b : Placeholder}
    (ha : ∀ value ∈ a.settings.values, value.AllQuoted QuotedText.Faithful)
    (hb : ∀ value ∈ b.settings.values, value.AllQuoted QuotedText.Faithful)
    (h : a.same b = true) : a = b := by
  obtain ⟨name, format, settings, before, after⟩ := a
  obtain ⟨name', format', settings', before', after'⟩ := b
  simp only [Placeholder.same, Bool.and_eq_true, beq_iff_eq] at h
  obtain ⟨⟨⟨⟨rfl, rfl⟩, rfl⟩, rfl⟩, h⟩ := h
  have hsettings : settings = settings' := Settings.eq_of_same ha hb h
  rw [hsettings]
termination_by structural a

theorem Settings.eq_of_same {a b : Settings SettingValue}
    (ha : ∀ value ∈ a.values, value.AllQuoted QuotedText.Faithful)
    (hb : ∀ value ∈ b.values, value.AllQuoted QuotedText.Faithful)
    (h : Settings.same a b = true) : a = b := by
  obtain ⟨entries, otherwise⟩ := a
  obtain ⟨entries', otherwise'⟩ := b
  rw [Settings.forall_mem_values] at ha hb
  simp only [Settings.same, Bool.and_eq_true] at h
  have hentries : entries = entries' := SettingValue.eq_of_sameEntries ha.1 hb.1 h.1
  have hotherwise : otherwise = otherwise' := SettingValue.eq_of_sameOption ha.2 hb.2 h.2
  rw [hentries, hotherwise]
termination_by structural a

theorem SettingValue.eq_of_sameEntries {as bs : List (SettingKey × SettingValue)}
    (ha : ∀ entry ∈ as, entry.2.AllQuoted QuotedText.Faithful)
    (hb : ∀ entry ∈ bs, entry.2.AllQuoted QuotedText.Faithful)
    (h : SettingValue.sameEntries as bs = true) : as = bs := by
  cases as with
  | nil =>
    cases bs with
    | nil => rfl
    | cons _ _ => simp [SettingValue.sameEntries] at h
  | cons entry as =>
    cases bs with
    | nil => simp [SettingValue.sameEntries] at h
    | cons entry' bs =>
      obtain ⟨key, value⟩ := entry
      obtain ⟨key', value'⟩ := entry'
      rw [List.forall_mem_cons] at ha hb
      simp only [SettingValue.sameEntries, Bool.and_eq_true, beq_iff_eq] at h
      obtain ⟨⟨rfl, hvalue⟩, hrest⟩ := h
      have hv : value = value' := SettingValue.eq_of_same ha.1 hb.1 hvalue
      rw [hv, SettingValue.eq_of_sameEntries ha.2 hb.2 hrest]
termination_by structural as

theorem SettingValue.eq_of_sameOption {a b : Option SettingValue}
    (ha : ∀ value ∈ a, value.AllQuoted QuotedText.Faithful)
    (hb : ∀ value ∈ b, value.AllQuoted QuotedText.Faithful)
    (h : SettingValue.sameOption a b = true) : a = b := by
  cases a with
  | none =>
    cases b with
    | none => rfl
    | some _ => simp [SettingValue.sameOption] at h
  | some value =>
    cases b with
    | none => simp [SettingValue.sameOption] at h
    | some value' =>
      rw [SettingValue.sameOption] at h
      rw [SettingValue.eq_of_same (ha value rfl) (hb value' rfl) h]
termination_by structural a

theorem SettingValue.eq_of_same {a b : SettingValue} (ha : a.AllQuoted QuotedText.Faithful)
    (hb : b.AllQuoted QuotedText.Faithful) (h : a.same b = true) : a = b := by
  cases a with
  | bool flag =>
    cases b with
    | bool flag' => rw [show flag = flag' by simpa [SettingValue.same] using h]
    | message _ | number _ | string _ => simp [SettingValue.same] at h
  | number n =>
    cases b with
    | number n' => rw [show n = n' by simpa [SettingValue.same] using h]
    | bool _ | message _ | string _ => simp [SettingValue.same] at h
  | string quoted =>
    cases b with
    | string quoted' =>
      rw [SettingValue.allQuoted_string] at ha hb
      rw [SettingValue.same] at h
      rw [QuotedText.eq_of_same ha hb h]
    | bool _ | message _ | number _ => simp [SettingValue.same] at h
  | message inner =>
    cases b with
    | message inner' =>
      rw [SettingValue.allQuoted_message] at ha hb
      rw [SettingValue.same] at h
      rw [Message.eq_of_same ha hb h]
    | bool _ | number _ | string _ => simp [SettingValue.same] at h
termination_by structural a

theorem Part.eq_of_sameAll {as bs : List Part}
    (ha : ∀ part ∈ as, part.AllQuoted QuotedText.Faithful)
    (hb : ∀ part ∈ bs, part.AllQuoted QuotedText.Faithful)
    (h : Part.sameAll as bs = true) : as = bs := by
  cases as with
  | nil =>
    cases bs with
    | nil => rfl
    | cons _ _ => simp [Part.sameAll] at h
  | cons part as =>
    cases bs with
    | nil => simp [Part.sameAll] at h
    | cons part' bs =>
      rw [List.forall_mem_cons] at ha hb
      simp only [Part.sameAll, Bool.and_eq_true] at h
      rw [Part.eq_of_same ha.1 hb.1 h.1, Part.eq_of_sameAll ha.2 hb.2 h.2]
termination_by structural as

theorem Message.eq_of_sameVariants {as bs : List (Locale × Message)}
    (ha : ∀ variant ∈ as, variant.2.AllQuoted QuotedText.Faithful)
    (hb : ∀ variant ∈ bs, variant.2.AllQuoted QuotedText.Faithful)
    (h : Message.sameVariants as bs = true) : as = bs := by
  cases as with
  | nil =>
    cases bs with
    | nil => rfl
    | cons _ _ => simp [Message.sameVariants] at h
  | cons variant as =>
    cases bs with
    | nil => simp [Message.sameVariants] at h
    | cons variant' bs =>
      obtain ⟨locale, message⟩ := variant
      obtain ⟨locale', message'⟩ := variant'
      rw [List.forall_mem_cons] at ha hb
      simp only [Message.sameVariants, Bool.and_eq_true, beq_iff_eq] at h
      obtain ⟨⟨rfl, hmessage⟩, hrest⟩ := h
      have hm : message = message' := Message.eq_of_same ha.1 hb.1 hmessage
      rw [hm, Message.eq_of_sameVariants ha.2 hb.2 hrest]
termination_by structural as

end

mutual

/-- Every message is the same as itself. -/
theorem Message.same_refl (message : Message) : message.same message = true := by
  cases message with
  | empty => rw [Message.same]
  | single part =>
    rw [Message.same]
    exact Part.same_refl part
  | multiple parts =>
    rw [Message.same]
    exact Part.sameAll_refl parts
  | localized variants =>
    rw [Message.same]
    exact Message.sameVariants_refl variants
  | coded code inner =>
    rw [Message.same, beq_self_eq_true, Bool.true_and]
    exact Message.same_refl inner
termination_by structural message

theorem Part.same_refl (part : Part) : part.same part = true := by
  cases part with
  | literal text => rw [Part.same, beq_self_eq_true]
  | placeholder place =>
    rw [Part.same]
    exact Placeholder.same_refl place
termination_by structural part

theorem Placeholder.same_refl (place : Placeholder) : place.same place = true := by
  obtain ⟨name, format, settings, before, after⟩ := place
  have hsettings := Settings.same_refl settings
  simp only [Placeholder.same, beq_self_eq_true, hsettings, Bool.and_self]
termination_by structural place

theorem Settings.same_refl (settings : Settings SettingValue) :
    Settings.same settings settings = true := by
  obtain ⟨entries, otherwise⟩ := settings
  have hentries := SettingValue.sameEntries_refl entries
  have hotherwise := SettingValue.sameOption_refl otherwise
  simp only [Settings.same, hentries, hotherwise, Bool.and_self]
termination_by structural settings

theorem SettingValue.sameEntries_refl (entries : List (SettingKey × SettingValue)) :
    SettingValue.sameEntries entries entries = true := by
  cases entries with
  | nil => rw [SettingValue.sameEntries]
  | cons entry entries =>
    obtain ⟨key, value⟩ := entry
    have hvalue := SettingValue.same_refl value
    have hrest := SettingValue.sameEntries_refl entries
    simp only [SettingValue.sameEntries, beq_self_eq_true, hvalue, hrest, Bool.and_self]
termination_by structural entries

theorem SettingValue.sameOption_refl (value : Option SettingValue) :
    SettingValue.sameOption value value = true := by
  cases value with
  | none => rw [SettingValue.sameOption]
  | some value =>
    rw [SettingValue.sameOption]
    exact SettingValue.same_refl value
termination_by structural value

theorem SettingValue.same_refl (value : SettingValue) : value.same value = true := by
  cases value with
  | bool flag => rw [SettingValue.same, beq_self_eq_true]
  | number n => rw [SettingValue.same, beq_self_eq_true]
  | string quoted => rw [SettingValue.same, QuotedText.same, beq_self_eq_true]
  | message inner =>
    rw [SettingValue.same]
    exact Message.same_refl inner
termination_by structural value

theorem Part.sameAll_refl (parts : List Part) : Part.sameAll parts parts = true := by
  cases parts with
  | nil => rw [Part.sameAll]
  | cons part parts =>
    have hpart := Part.same_refl part
    have hrest := Part.sameAll_refl parts
    simp only [Part.sameAll, hpart, hrest, Bool.and_self]
termination_by structural parts

theorem Message.sameVariants_refl (variants : List (Locale × Message)) :
    Message.sameVariants variants variants = true := by
  cases variants with
  | nil => rw [Message.sameVariants]
  | cons variant variants =>
    obtain ⟨locale, message⟩ := variant
    have hmessage := Message.same_refl message
    have hrest := Message.sameVariants_refl variants
    simp only [Message.sameVariants, beq_self_eq_true, hmessage, hrest, Bool.and_self]
termination_by structural variants

end

/-- Of faithful messages, sameness is equality. -/
theorem Message.same_iff_eq {a b : Message} (ha : a.AllQuoted QuotedText.Faithful)
    (hb : b.AllQuoted QuotedText.Faithful) : a.same b = true ↔ a = b := by
  constructor
  · exact Message.eq_of_same ha hb
  · rintro rfl
    exact Message.same_refl a

end Phrasebook
