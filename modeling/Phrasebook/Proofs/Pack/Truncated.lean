import Phrasebook.Proofs.Pack.Messages
import Phrasebook.Proofs.Pack.Steady

/-! # Packs that are cut off

    A pack that lost its end is recognised as such: no proper prefix of a pack is read as messages,
    and none looks damaged in another way. Two facts come together here.

    * The reader *accepts* what is written for messages of the right shape, and of the body it leaves
      only the zeros that fill the last byte. Here locales need only be read as some locale, and
      strings may have any text for their source; what is read is then another message, of the same
      shape.
    * Readers are steady, so on a front of the body the reader would leave fewer bits, or it needs one
      that is missing. A byte that is cut off is more than what is left. -/

namespace Phrasebook

/-- The tag of the locale is read as a locale, perhaps as another one. -/
def Locale.Parseable (locale : Locale) : Prop := ∃ read, Locale.parse locale.tag = .ok read

/-- One message may stand in the place of the other one. -/
structure Message.Alike (message read : Message) : Prop where
  /-- Both are plain, or neither is. -/
  isPlain : read.isPlain = message.isPlain
  /-- Both have a code, or neither has. -/
  code : read.code?.isSome = message.code?.isSome

namespace PackReader

variable {α β : Type} {reader : PackReader α} {next : α → PackReader β} {a : α}
  {p : α → Prop} {q : β → Prop} {chunks rest : List Chunk}

/-- The reader gets some value with the property from where the chunks are laid out. -/
def Accepts (reader : PackReader α) (chunks : List Chunk) (p : α → Prop) : Prop :=
  ∃ a, p a ∧ reader.Reads chunks a

/-! ### Sequences -/

theorem Reads.accepts (h : reader.Reads chunks a) (hp : p a) : reader.Accepts chunks p :=
  ⟨a, hp, h⟩

theorem accepts_pure (hp : p a) : (pure a : PackReader α).Accepts [] p := (reads_pure a).accepts hp

theorem Accepts.bind (h : reader.Accepts chunks p) (hn : ∀ a, p a → (next a).Accepts rest q) :
    (reader >>= next).Accepts (chunks ++ rest) q := by
  obtain ⟨a, hp, hread⟩ := h
  obtain ⟨b, hq, hnext⟩ := hn a hp
  exact ⟨b, hq, hread.bind hnext⟩

theorem Reads.bind_accepts (h : reader.Reads chunks a) (hn : (next a).Accepts rest q) :
    (reader >>= next).Accepts (chunks ++ rest) q := by
  obtain ⟨b, hq, hnext⟩ := hn
  exact ⟨b, hq, h.bind hnext⟩

/-- A last step that reads nothing. -/
theorem Accepts.then (h : reader.Accepts chunks p) (hn : ∀ a, p a → (next a).Accepts [] q) :
    (reader >>= next).Accepts chunks q := by
  have hb := h.bind hn
  rwa [List.append_nil] at hb

theorem Accepts.map {f : α → β} (h : reader.Accepts chunks p) (hf : ∀ a, p a → q (f a)) :
    (reader >>= fun a => pure (f a)).Accepts chunks q :=
  h.then fun a hp => accepts_pure (hf a hp)

theorem accepts_readMany {γ : Type} {item : PackReader α} {written : γ → List Chunk} {cs : List γ}
    (h : ∀ c ∈ cs, item.Accepts (written c) fun _ => True) :
    (readMany item cs.length).Accepts (cs.flatMap written) fun as => as.length = cs.length := by
  induction cs with
  | nil => exact accepts_pure rfl
  | cons c cs ih =>
    refine (h c List.mem_cons_self).bind fun first _ => ?_
    refine (ih fun d hd => h d (List.mem_cons_of_mem c hd)).map fun as has => ?_
    rw [List.length_cons, List.length_cons, has]

/-! ### Values and settings -/

section Inner

variable {message : PackReader Message}

/-- A string is read with the text that belongs to its source. -/
theorem accepts_readValue {value : SettingValue} (hs : value.Sound fun _ => True)
    (hm : ∀ inner ∈ value.message?, message.Accepts inner.chunks inner.Alike) :
    (readValue message).Accepts value.chunks fun _ => True := by
  cases value with
  | bool flag =>
    refine (reads_readTag (by decide) (by decide : 0 < 1 <<< 2)).bind_accepts ?_
    exact ((reads_readBool flag).map SettingValue.bool).accepts trivial
  | message inner =>
    refine (reads_readTag (by decide) (by decide : 1 < 1 <<< 2)).bind_accepts ?_
    exact (hm inner rfl).map fun _ _ => trivial
  | number n =>
    refine (reads_readTag (by decide) (by decide : 2 < 1 <<< 2)).bind_accepts ?_
    exact ((reads_readInteger n).map SettingValue.number).accepts trivial
  | string quoted =>
    refine (reads_readTag (by decide) (by decide : 3 < 1 <<< 2)).bind_accepts ?_
    exact ((reads_readText "config value" hs.1).map (SettingValue.string ∘ .ofSource)).accepts
      trivial

/-- The keys are read as they are, so none of them is read twice. -/
theorem accepts_readEntries {entries : List (SettingKey × SettingValue)}
    {start : Settings SettingValue} (hd : (start.keys ++ entries.map Prod.fst).Nodup)
    (hk : ∀ entry ∈ entries, entry.1.Fits)
    (hv : ∀ entry ∈ entries, (readValue message).Accepts entry.2.chunks fun _ => True) :
    (readEntries message entries.length start).Accepts (SettingValue.entryChunks entries)
      fun _ => True := by
  induction entries generalizing start with
  | nil => exact accepts_pure trivial
  | cons entry entries ih =>
    obtain ⟨key, value⟩ := entry
    have hnew : key ∉ start.keys := by
      intro hin
      exact (List.nodup_append.1 hd).2.2 key hin key (by simp) rfl
    rw [SettingValue.entryChunks, List.append_assoc]
    refine (reads_readKey (hk (key, value) (by simp))).bind_accepts ?_
    refine (hv (key, value) (by simp)).bind fun read _ => ?_
    simp only [Settings.insert_of_not_mem hnew]
    exact ih (by simpa [Settings.keys] using hd) (fun e he => hk e (List.mem_cons_of_mem _ he))
      fun e he => hv e (List.mem_cons_of_mem _ he)

theorem accepts_readSettings {settings : Settings SettingValue}
    (hs : settings.Sound fun _ => True)
    (hv : ∀ value ∈ settings.values, (readValue message).Accepts value.chunks fun _ => True) :
    (readSettings message).Accepts settings.chunks fun _ => True := by
  obtain ⟨entries, otherwise⟩ := settings
  have hentries : (readEntries message entries.length {}).Accepts
      (SettingValue.entryChunks entries) fun _ => True :=
    accepts_readEntries hs.distinct
      (fun e he => hs.keys e.1 (List.mem_map_of_mem he))
      (fun e he => hv e.2 (by simpa [Settings.values] using .inl ⟨_, he⟩))
  refine (reads_readCount hs.count).bind_accepts (hentries.bind fun read _ => ?_)
  cases otherwise with
  | none => exact ((reads_readBool false).bind (reads_pure read)).accepts trivial
  | some value =>
    refine (reads_readBool true).bind_accepts ?_
    exact (hv value (by simp [Settings.values])).map fun _ _ => trivial

/-! ### Parts and variants -/

theorem accepts_readPart {part : Part} (hs : part.Sound fun _ => True)
    (hm : ∀ inner ∈ part.inners, message.Accepts inner.chunks inner.Alike) :
    (readPart message).Accepts part.chunks fun _ => True := by
  cases part with
  | literal text => exact (reads_literal text hs).accepts trivial
  | placeholder place =>
    obtain ⟨name, format, settings, before, after⟩ := place
    obtain ⟨hname, hformat, hsettings⟩ := hs
    have hvalues := accepts_readSettings hsettings fun value hv =>
      accepts_readValue (hsettings.values value hv) fun inner hi =>
        hm inner (List.mem_filterMap.2 ⟨value, hv, hi⟩)
    have hchunks : Part.chunks (.placeholder ⟨name, format, settings, before, after⟩) =
        tagChunk 2 2 :: flagChunk before :: flagChunk after ::
          (textChunks name ++ (optionalChunks format ++ Settings.chunks settings)) := by
      rw [Part.chunks, Placeholder.chunks, List.append_assoc]
    rw [hchunks]
    refine (reads_readTag (by decide) (by decide : 2 < 1 <<< 2)).bind_accepts ?_
    refine (reads_readBool before).bind_accepts ((reads_readBool after).bind_accepts ?_)
    refine (reads_readText "parameter name" hname).bind_accepts ?_
    refine (reads_readOptional hformat).bind_accepts ?_
    exact hvalues.map fun _ _ => trivial

/-- A variant that is read is as plain as the one that was written. -/
theorem accepts_readVariant {variant : Locale × Message} (hfits : FitsLength variant.1.tag)
    (hl : variant.1.Parseable) (hplain : variant.2.isPlain)
    (hm : message.Accepts variant.2.chunks variant.2.Alike) :
    (readVariant message).Accepts (textChunks variant.1.tag ++ variant.2.chunks)
      fun _ => True := by
  obtain ⟨read, hparse⟩ := hl
  refine (reads_readText "locale" hfits).bind_accepts ?_
  simp only [hparse]
  refine hm.then fun inner hinner => ?_
  rw [hinner.isPlain, if_pos hplain]
  exact accepts_pure trivial

end Inner

/-! ### Messages -/

/-- A message of the right shape is read, within its depth, as a message that may stand in its
    place. -/
theorem accepts_readMessage (budget : Nat) {message : Message}
    (hs : message.AllSound (fun _ => True) Locale.Parseable)
    (hp : message.PackableWithin budget) :
    (readMessage budget).Accepts message.chunks message.Alike := by
  induction budget generalizing message with
  | zero => exact absurd hp.1 id
  | succ budget ih =>
    obtain ⟨hshaped, hpinner⟩ := Message.packableWithin_succ_iff.1 hp
    have hinner : ∀ inner ∈ message.inners,
        (readMessage budget).Accepts inner.chunks inner.Alike :=
      fun inner hi => ih (hs.inners inner hi) (hpinner inner hi)
    have hhere := hs.here
    cases message with
    | empty =>
      refine Reads.accepts ?_ ⟨rfl, rfl⟩
      exact (reads_readTag (by decide) (by decide : 0 < 1 <<< 3)).bind (reads_pure Message.empty)
    | single part =>
      have hpart := accepts_readPart (hhere.2 part (by simp [Message.parts]))
        (fun inner hi => hinner inner (by simpa [Message.inners, Message.parts] using hi))
      refine (reads_readTag (by decide) (by decide : 1 < 1 <<< 3)).bind_accepts ?_
      exact hpart.map fun _ _ => ⟨rfl, rfl⟩
    | multiple parts =>
      have hparts := accepts_readMany fun part hpart =>
        accepts_readPart (hhere.2 part hpart) fun inner hi =>
          hinner inner (List.mem_flatMap.2 ⟨part, hpart, hi⟩)
      rw [← parts_chunks_eq] at hparts
      refine (reads_readTag (by decide) (by decide : 2 < 1 <<< 3)).bind_accepts ?_
      refine (reads_readCount hhere.1).bind_accepts ?_
      have htwo : ¬ (Message.multiple parts).parts.length < 2 := Nat.not_lt.2 hshaped
      rw [if_neg htwo]
      exact hparts.map fun _ _ => ⟨rfl, rfl⟩
    | localized variants =>
      obtain ⟨hne, hplain⟩ := hshaped
      have hvariants := accepts_readMany fun variant hv =>
        accepts_readVariant (hhere.2 variant hv).1 (hhere.2 variant hv).2 (hplain variant hv)
          (hinner variant.2 (List.mem_map_of_mem hv))
      rw [← variantChunks_eq] at hvariants
      refine (reads_readTag (by decide) (by decide : 3 < 1 <<< 3)).bind_accepts ?_
      refine (reads_readCount hhere.1).bind_accepts (hvariants.then fun read hlength => ?_)
      -- as many variants are read as were written
      have hread : ¬ read.isEmpty := by
        rw [List.isEmpty_iff]
        rintro rfl
        exact hne (List.length_eq_zero_iff.1 hlength.symm)
      rw [if_neg hread]
      exact accepts_pure ⟨rfl, rfl⟩
    | coded code inner =>
      refine (reads_readTag (by decide) (by decide : 4 < 1 <<< 3)).bind_accepts ?_
      refine (reads_readText "message code" hhere).bind_accepts ?_
      refine (hinner inner (by simp [Message.inners])).then fun read hread => ?_
      have hcode : read.code?.isSome = false := by
        rw [hread.code, show inner.code? = none from hshaped]
        rfl
      rw [hcode]
      exact accepts_pure ⟨rfl, rfl⟩

/-- The body of a pack is read, and some of its last bits are left. -/
theorem accepts_readBody {messages : List Message} (hcount : messages.length < countLimit)
    (hs : ∀ message ∈ messages, message.AllSound (fun _ => True) Locale.Parseable)
    (hp : ∀ message ∈ messages, message.Packable) :
    readBody.Accepts (bodyChunks messages) fun read => read.length = messages.length := by
  refine (reads_readCount hcount).bind_accepts (accepts_readMany fun message hm => ?_)
  obtain ⟨read, -, hread⟩ := accepts_readMessage nestingLimit (hs message hm) (hp message hm)
  exact ⟨read, trivial, hread⟩

/-! ### Cutting off -/

/-- A steady reader that accepts all of a body misses a bit where a byte is cut off. -/
theorem Steady.run_cut {body front : List UInt8} (h : reader.Steady)
    (ha : reader.Accepts chunks p) (hbody : body = packedBytes chunks) (hfront : front <+: body)
    (hlt : front.length < body.length) :
    ∃ source, reader.run (.ofBytes front) = (.error .unexpectedEnd, source) := by
  obtain ⟨behind, hbehind⟩ := hfront
  obtain ⟨a, -, hread⟩ := ha
  rcases h 0 (bitsOfBytes front) with hend | ⟨result, position, rest, hrun⟩
  · exact hend
  -- on the whole body the reader leaves the padding, which is less than what is cut off
  exfalso
  have hwhole := hread 0 (List.replicate (padding (layout 0 chunks).length) false)
  have hbits : bitsOfBytes front ++ bitsOfBytes behind =
      layout 0 chunks ++ List.replicate (padding (layout 0 chunks).length) false := by
    rw [← bitsOfBytes_bytesOfBits, ← packedBytes, ← hbody, ← hbehind, bitsOfBytes, bitsOfBytes,
      bitsOfBytes, List.flatMap_append]
  rw [← hbits, hrun (bitsOfBytes behind)] at hwhole
  have hleft := congrArg List.length (congrArg BitSource.rest (Prod.mk.inj hwhole).2)
  have hlength := congrArg List.length hbehind
  simp only [List.length_append, length_bitsOfBytes, List.length_replicate] at hleft hlength
  have hpadding : padding (layout 0 chunks).length < 8 := Nat.mod_lt _ (by decide)
  omega

end PackReader

/-! ### Packs -/

/-- Without all of the header there is none. -/
theorem openBody_of_length_lt {front : List UInt8} (h : front.length < headerSize) :
    openBody front = .error .badHeader := by
  have hdrop : front.drop packMark.length = [] := List.drop_eq_nil_of_le (Nat.le_of_lt_succ h)
  rw [openBody, hdrop]

/-- Behind the header of a front comes a front of the body. -/
theorem openBody_prefix {front body : List UInt8} (hfront : front <+: sealBody false body)
    (hlength : headerSize ≤ front.length) :
    ∃ cut, front.length = headerSize + cut.length ∧ cut <+: body ∧ openBody front = .ok cut := by
  let header := packMark ++ [headerByte false]
  have hheader : header <+: front :=
    List.prefix_of_prefix_length_le (List.prefix_append header body) hfront hlength
  obtain ⟨cut, rfl⟩ := hheader
  exact ⟨cut, List.length_append, (List.prefix_append_right_inj header).1 hfront, rfl⟩

/-- No proper prefix of a pack is unpacked: either it has no complete header, or it ends too early.
    The messages are packable, and what they are made of can be packed at all: texts and lists fit
    into memory, keys in settings are distinct, and tags of locales are read as locales. -/
theorem unpackMessages_prefix {messages : List Message} (hcount : messages.length < countLimit)
    (hs : ∀ message ∈ messages, message.AllSound (fun _ => True) Locale.Parseable)
    (hp : ∀ message ∈ messages, message.Packable) {front : List UInt8}
    (hfront : front <+: packMessages false messages)
    (hne : front ≠ packMessages false messages) :
    unpackMessages front =
      .error (if front.length < headerSize then .badHeader else .unexpectedEnd) := by
  by_cases hshort : front.length < headerSize
  · rw [if_pos hshort, unpackMessages, openBody_of_length_lt hshort]
  · obtain ⟨cut, hlength, hcut, hopen⟩ := openBody_prefix hfront (Nat.not_lt.1 hshort)
    have hlt : cut.length < (packBody messages).length := by
      by_contra hle
      have hwhole : (packMessages false messages).length =
          headerSize + (packBody messages).length := List.length_append
      exact hne (hfront.eq_of_length_le (by omega))
    obtain ⟨source, hend⟩ := PackReader.steady_readBody.run_cut
      (PackReader.accepts_readBody hcount hs hp) rfl hcut hlt
    rw [if_neg hshort, unpackMessages, hopen]
    simp only [unpackBody, hend]

/-- A variant whose locale has a tag in capital letters, cut off in the header and in the text. -/
theorem unpackMessages_prefix_variant :
    let message : Message := .localized [(⟨"EN", none⟩, .single (.literal { text := "ab" }))]
    let pack := packMessages false [message]
    pack.length = 16 ∧
      unpackMessages (pack.take 6) = .error .badHeader ∧
      unpackMessages (pack.take 15) = .error .unexpectedEnd := by
  intro message pack
  have hsound : message.AllSound (fun _ => True) Locale.Parseable := by
    refine ⟨⟨by decide, List.forall_mem_singleton.2 ⟨by decide, ⟨"en", none⟩, rfl⟩⟩, ?_⟩
    refine List.forall_mem_singleton.2 (.of_inners_eq_nil ⟨by decide, ?_⟩ rfl)
    exact List.forall_mem_singleton.2 (by decide : FitsLength "ab")
  have hpackable : message.Packable := by
    refine Message.packableWithin_succ_iff.2
      ⟨⟨by simp, List.forall_mem_singleton.2 rfl⟩, List.forall_mem_singleton.2 ?_⟩
    exact Message.packableWithin_succ_iff.2
      ⟨trivial, by simp [Message.inners, Message.parts, Part.inners]⟩
  have hlength : pack.length = 16 := by decide
  have hcut (count : Nat) (hcount : count < 16) : pack.take count ≠ pack := by
    intro h
    have := congrArg List.length h
    rw [List.length_take] at this
    omega
  refine ⟨hlength, ?_, ?_⟩
  · exact unpackMessages_prefix (by decide) (List.forall_mem_singleton.2 hsound)
      (List.forall_mem_singleton.2 hpackable) (List.take_prefix 6 pack) (hcut 6 (by decide))
  · exact unpackMessages_prefix (by decide) (List.forall_mem_singleton.2 hsound)
      (List.forall_mem_singleton.2 hpackable) (List.take_prefix 15 pack) (hcut 15 (by decide))

end Phrasebook
