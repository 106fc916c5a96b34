import Phrasebook.Pack.Reading
import Phrasebook.Pack.Writing
import Phrasebook.Proofs.Locale
import Phrasebook.Proofs.Message.Settings
import Phrasebook.Proofs.Message.Tree
import Phrasebook.Proofs.Pack.Fields
import Phrasebook.Proofs.Text.Escapes

/-! # Packed parts and settings are read back

    Readers of parts and settings are given how a message in them is read. They read what is written
    for a part if the messages in it are read, and refuse it if one of them is refused.

    `Message.Sound` says what the fields at the root of a message have to be: keys are distinct,
    texts and lists fit into memory, and strings and locales satisfy conditions that are left open.
    -/

namespace Phrasebook

/-! ### Fields of messages -/

section Sound

variable (string : QuotedText → Prop) (locale : Locale → Prop)

/-- The texts of the key are no longer than memory allows. -/
def SettingKey.Fits : SettingKey → Prop
  | .name word => FitsLength word
  | .string _ text => FitsLength text
  | _ => True

/-- A string satisfies the condition on strings. -/
def SettingValue.Sound : SettingValue → Prop
  | .string quoted => FitsLength quoted.source ∧ string quoted
  | _ => True

/-- Keys are distinct, and keys and values are sound. -/
structure Settings.Sound (settings : Settings SettingValue) : Prop where
  /-- No key repeats. -/
  distinct : settings.Distinct
  /-- The entries can be counted. -/
  count : settings.entries.length < countLimit
  /-- Keys fit. -/
  keys : ∀ key ∈ settings.keys, key.Fits
  /-- Values are sound. -/
  values : ∀ value ∈ settings.values, value.Sound string

/-- Texts fit and settings are sound. -/
def Part.Sound : Part → Prop
  | .literal text => FitsLength text.text
  | .placeholder place =>
    FitsLength place.name ∧ (∀ format ∈ place.format, FitsLength format) ∧
      place.settings.Sound string

/-- The fields at the root of a message are sound. -/
def Message.Sound : Message → Prop
  | .localized variants =>
    variants.length < countLimit ∧
      ∀ variant ∈ variants, FitsLength variant.1.tag ∧ locale variant.1
  | .coded code _ => FitsLength code
  | message => message.parts.length < countLimit ∧ ∀ part ∈ message.parts, part.Sound string

end Sound

section Imp

variable {string string' : QuotedText → Prop} {locale locale' : Locale → Prop}

theorem Part.Sound.imp (hq : ∀ quoted, string quoted → string' quoted) {part : Part}
    (h : part.Sound string) : part.Sound string' := by
  cases part with
  | literal text => exact h
  | placeholder place =>
    obtain ⟨hname, hformat, hs⟩ := h
    refine ⟨hname, hformat, hs.distinct, hs.count, hs.keys, fun value hv => ?_⟩
    have hvalue := hs.values value hv
    cases value with
    | string quoted => exact ⟨hvalue.1, hq quoted hvalue.2⟩
    | bool _ | number _ | message _ => trivial

/-- Conditions on strings and locales can be weakened. -/
theorem Message.Sound.imp (hq : ∀ quoted, string quoted → string' quoted)
    (hl : ∀ l, locale l → locale' l) {message : Message} (h : message.Sound string locale) :
    message.Sound string' locale' := by
  cases message with
  | empty | single _ | multiple _ => exact ⟨h.1, fun p hp => (h.2 p hp).imp hq⟩
  | localized variants => exact ⟨h.1, fun v hv => ⟨(h.2 v hv).1, hl _ (h.2 v hv).2⟩⟩
  | coded code inner => exact h

end Imp

/-- The locale is read from its own tag. -/
def Locale.Readable (locale : Locale) : Prop := Locale.parse locale.tag = .ok locale

/-- The tag of a locale that was read from a tag is short, and is read as the locale. -/
theorem Locale.fits_of_parse {tag : String} {locale : Locale} (h : parse tag = .ok locale) :
    FitsLength locale.tag ∧ locale.Readable := by
  have hbytes := length_utf8Bytes_le locale.tag
  have hlength := (canonical_of_parse h).length_tag_le
  refine ⟨?_, parse_tag h⟩
  unfold FitsLength countLimit
  omega

namespace PackReader

/-! ### Tags and keys -/

theorem reads_readTag {width tag : Nat} (hw : width ≤ 8) (ht : tag < 1 <<< width) :
    (readTag width).Reads [tagChunk width tag] tag := by
  have hlt : tag < 0x100 := by
    refine Nat.lt_of_lt_of_le ht ?_
    rw [Nat.one_shiftLeft]
    exact Nat.pow_le_pow_right (by decide) hw
  have h := (reads_readBits_of_lt (by omega : width ≤ 64) ht).map (· % 0x100)
  rwa [Nat.mod_eq_of_lt hlt] at h

theorem reads_readRelation (relation : Comparator) :
    readRelation.Reads [relation.chunk] relation := by
  have ht : relation.ordinal < 1 <<< 3 := by cases relation <;> decide
  have hr : Comparator.ofOrdinal? relation.ordinal = some relation := by cases relation <;> rfl
  refine (reads_readTag (by decide) ht).then ?_
  simp only [hr]
  exact reads_pure relation

theorem reads_readKey {key : SettingKey} (h : key.Fits) : readKey.Reads key.chunks key := by
  cases key with
  | bool value =>
    refine (reads_readTag (by decide) (by decide : 0 < 1 <<< 3)).bind ?_
    exact (reads_readBool value).map SettingKey.bool
  | empty relation =>
    refine (reads_readTag (by decide) (by decide : 1 < 1 <<< 3)).bind ?_
    exact (reads_readRelation relation).map SettingKey.empty
  | name word =>
    refine (reads_readTag (by decide) (by decide : 2 < 1 <<< 3)).bind ?_
    exact (reads_readText "key name" h).map SettingKey.name
  | null relation =>
    refine (reads_readTag (by decide) (by decide : 3 < 1 <<< 3)).bind ?_
    exact (reads_readRelation relation).map SettingKey.null
  | number relation value =>
    refine (reads_readTag (by decide) (by decide : 4 < 1 <<< 3)).bind ?_
    refine (reads_readRelation relation).bind ?_
    exact (reads_readInteger value).map (SettingKey.number relation)
  | string relation text =>
    refine (reads_readTag (by decide) (by decide : 5 < 1 <<< 3)).bind ?_
    refine (reads_readRelation relation).bind ?_
    exact (reads_readText "key string" h).map (SettingKey.string relation)

/-! ### Values and settings -/

variable {message : PackReader Message} {good : Message → Prop}

/-- How messages are read decides whether a value is. -/
theorem readsIf_readValue {value : SettingValue} (hs : value.Sound QuotedText.Faithful)
    (hm : ∀ inner ∈ value.message?, message.ReadsIf inner.chunks (good inner) inner) :
    (readValue message).ReadsIf value.chunks (∀ inner ∈ value.message?, good inner) value := by
  cases value with
  | bool flag =>
    have h : (readValue message).Reads (SettingValue.bool flag).chunks (.bool flag) :=
      (reads_readTag (by decide) (by decide : 0 < 1 <<< 2)).bind
        ((reads_readBool flag).map SettingValue.bool)
    exact h.readsIf.congr (by simp [SettingValue.message?])
  | message inner =>
    have h : (readValue message).ReadsIf (SettingValue.message inner).chunks (good inner)
        (.message inner) :=
      (reads_readTag (by decide) (by decide : 1 < 1 <<< 2)).bind_readsIf
        ((hm inner rfl).map SettingValue.message)
    exact h.congr (by simp [SettingValue.message?])
  | number n =>
    have h : (readValue message).Reads (SettingValue.number n).chunks (.number n) :=
      (reads_readTag (by decide) (by decide : 2 < 1 <<< 2)).bind
        ((reads_readInteger n).map SettingValue.number)
    exact h.readsIf.congr (by simp [SettingValue.message?])
  | string quoted =>
    obtain ⟨hfits, hfaithful⟩ := hs
    -- only the source is written; the reader resolves the text from it again
    have hq : QuotedText.ofSource quoted.source = quoted := by
      rw [QuotedText.ofSource, ← hfaithful]
    have h : (readValue message).Reads (SettingValue.string quoted).chunks
        (.string (.ofSource quoted.source)) :=
      (reads_readTag (by decide) (by decide : 3 < 1 <<< 2)).bind
        ((reads_readText "config value" hfits).map (SettingValue.string ∘ .ofSource))
    rw [hq] at h
    exact h.readsIf.congr (by simp [SettingValue.message?])

/-- Entries with new and distinct keys are added one by one. -/
theorem readsIf_readEntries {good : SettingValue → Prop}
    {entries : List (SettingKey × SettingValue)} {start : Settings SettingValue}
    (hd : (start.keys ++ entries.map Prod.fst).Nodup) (hk : ∀ entry ∈ entries, entry.1.Fits)
    (hv : ∀ entry ∈ entries, (readValue message).ReadsIf entry.2.chunks (good entry.2) entry.2) :
    (readEntries message entries.length start).ReadsIf (SettingValue.entryChunks entries)
      (∀ entry ∈ entries, good entry.2) { start with entries := start.entries ++ entries } := by
  induction entries generalizing start with
  | nil =>
    have hstart : { start with entries := start.entries ++ [] } = start := by
      rw [List.append_nil]
    rw [hstart]
    exact (readsIf_pure start).congr (by simp)
  | cons entry entries ih =>
    obtain ⟨key, value⟩ := entry
    -- the reader refuses a key that it has read before, but this one is new
    have hnew : key ∉ start.keys := by
      intro hin
      exact (List.nodup_append.1 hd).2.2 key hin key (by simp) rfl
    have hrest := @ih { start with entries := start.entries ++ [(key, value)] }
      (by simpa [Settings.keys] using hd) (fun e he => hk e (List.mem_cons_of_mem _ he))
      (fun e he => hv e (List.mem_cons_of_mem _ he))
    simp only [List.append_assoc, List.singleton_append] at hrest
    rw [SettingValue.entryChunks, List.append_assoc]
    refine ((reads_readKey (hk (key, value) (by simp))).bind_readsIf ?_).congr
      List.forall_mem_cons.symm
    refine (hv (key, value) (by simp)).bind ?_
    simp only [Settings.insert_of_not_mem hnew]
    exact hrest

theorem readsIf_readSettings {good : SettingValue → Prop} {settings : Settings SettingValue}
    (hs : settings.Sound QuotedText.Faithful)
    (hv : ∀ value ∈ settings.values, (readValue message).ReadsIf value.chunks (good value) value) :
    (readSettings message).ReadsIf settings.chunks (∀ value ∈ settings.values, good value)
      settings := by
  obtain ⟨entries, otherwise⟩ := settings
  have hentries : (readEntries message entries.length {}).ReadsIf
      (SettingValue.entryChunks entries) (∀ entry ∈ entries, good entry.2) ⟨entries, none⟩ :=
    readsIf_readEntries hs.distinct
      (fun e he => hs.keys e.1 (List.mem_map_of_mem he))
      (fun e he => hv e.2 (by simpa [Settings.values] using .inl ⟨_, he⟩))
  cases otherwise with
  | none =>
    refine ((reads_readCount hs.count).bind_readsIf (hentries.bind (Reads.readsIf ?_))).congr ?_
    · exact (reads_readBool false).bind (reads_pure _)
    · simp only [Settings.forall_mem_values]
      simp
  | some value =>
    have hvalue := (hv value (by simp [Settings.values])).map fun value =>
      (⟨entries, some value⟩ : Settings SettingValue)
    refine ((reads_readCount hs.count).bind_readsIf
      (hentries.bind ((reads_readBool true).bind_readsIf hvalue))).congr ?_
    simp only [Settings.forall_mem_values]
    simp

/-! ### Parts -/

theorem reads_literal (text : Literal) (h : FitsLength text.text) :
    (readPart message).Reads text.chunks (.literal text) := by
  obtain ⟨text, before, after⟩ := text
  rw [Literal.chunks]
  split
  · rename_i hflags
    obtain ⟨rfl, rfl⟩ : before = false ∧ after = false := by simpa using hflags
    refine (reads_readTag (by decide) (by decide : 0 < 1 <<< 2)).bind ?_
    exact (reads_readText "text" h).map fun text => Part.literal { text }
  · refine (reads_readTag (by decide) (by decide : 1 < 1 <<< 2)).bind ?_
    refine (reads_readBool before).bind ((reads_readBool after).bind ?_)
    exact (reads_readText "text" h).map fun text => Part.literal ⟨text, before, after⟩

theorem readsIf_readPart {part : Part} (hs : part.Sound QuotedText.Faithful)
    (hm : ∀ inner ∈ part.inners, message.ReadsIf inner.chunks (good inner) inner) :
    (readPart message).ReadsIf part.chunks (∀ inner ∈ part.inners, good inner) part := by
  cases part with
  | literal text =>
    exact (reads_literal text hs).readsIf.congr (by simp [Part.inners])
  | placeholder place =>
    obtain ⟨name, format, settings, before, after⟩ := place
    obtain ⟨hname, hformat, hsettings⟩ := hs
    have hvalues := readsIf_readSettings hsettings fun value hv =>
      readsIf_readValue (hsettings.values value hv) fun inner hi =>
        hm inner (List.mem_filterMap.2 ⟨value, hv, hi⟩)
    have hchunks : Part.chunks (.placeholder ⟨name, format, settings, before, after⟩) =
        tagChunk 2 2 :: flagChunk before :: flagChunk after ::
          (textChunks name ++ (optionalChunks format ++ Settings.chunks settings)) := by
      rw [Part.chunks, Placeholder.chunks, List.append_assoc]
    rw [hchunks]
    -- what is asked of the values is asked of the messages among them
    have hgood : (∀ value ∈ settings.values, ∀ inner ∈ value.message?, good inner) ↔
        ∀ inner ∈ (Part.placeholder ⟨name, format, settings, before, after⟩).inners,
          good inner := by
      simp only [Part.inners, List.mem_filterMap]
      constructor
      · rintro h inner ⟨value, hv, hi⟩
        exact h value hv inner hi
      · intro h value hv inner hi
        exact h inner ⟨value, hv, hi⟩
    refine ReadsIf.congr ?_ hgood
    refine (reads_readTag (by decide) (by decide : 2 < 1 <<< 2)).bind_readsIf ?_
    refine (reads_readBool before).bind_readsIf ((reads_readBool after).bind_readsIf ?_)
    refine (reads_readText "parameter name" hname).bind_readsIf ?_
    refine (reads_readOptional hformat).bind_readsIf ?_
    exact hvalues.map fun settings => Part.placeholder ⟨name, format, settings, before, after⟩

end PackReader

end Phrasebook
