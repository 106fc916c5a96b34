import Phrasebook.Proofs.Pack.Messages
import Phrasebook.Proofs.Pack.Yields
import Phrasebook.Proofs.Sharing.Tree

/-! # What is unpacked is well formed

    Bits that no packer wrote are read as messages too, if they are accepted at all. Whatever they
    are, the messages are as packed messages have to be: the reader counts how deep it is on every
    way into a message, and refuses every shape that no message is meant to have. So unpacked
    messages can be packed again, and are unpacked as they were.

    Like the reader, the proof goes down with the messages that may still lie inside each other. -/

namespace Phrasebook

/-- The message is as every part of the library takes it to be. -/
structure Message.WellFormed (message : Message) : Prop where
  /-- No path has more messages than the limit. -/
  within : message.Within nestingLimit
  /-- Several parts are at least two, variants are there and plain, and no code is behind a code. -/
  shaped : message.Everywhere Message.Shaped
  /-- Keys of settings are distinct, strings stand for what their source does, locales are read from
      their tags, and texts and lists can be told in a pack. -/
  sound : message.AllSound QuotedText.Faithful Locale.Readable

/-- The strings of a message with sound fields are faithful. -/
theorem Message.AllSound.allQuoted {locale : Locale → Prop} {message : Message}
    (h : message.AllSound QuotedText.Faithful locale) : message.AllQuoted QuotedText.Faithful := by
  apply Message.Everywhere.imp ?_ h
  intro m hm place hp quoted hq
  obtain ⟨value, hv, hquoted⟩ := List.mem_filterMap.1 hq
  have hsettings : place.settings.Sound QuotedText.Faithful := by
    cases m with
    | empty | single _ | multiple _ => exact (hm.2 _ hp).2.2
    | localized _ | coded _ _ => exact absurd hp List.not_mem_nil
  have hvalue := hsettings.values value hv
  cases value with
  | string quoted' =>
    obtain rfl := Option.some.inj hquoted
    exact hvalue.2
  | bool _ | message _ | number _ => cases hquoted

namespace PackReader

/-! ### Keys, values and settings -/

theorem yields_readKey : readKey.Yields SettingKey.Fits := by
  refine yields_true.bind ?_
  intro tag _
  match tag with
  | 0 => exact yields_true.map fun _ _ => trivial
  | 1 => exact yields_true.map fun _ _ => trivial
  | 2 => exact (yields_readText "key name").map fun _ hword => hword
  | 3 => exact yields_true.map fun _ _ => trivial
  | 4 =>
    refine yields_true.bind ?_
    intro relation _
    exact yields_true.map fun _ _ => trivial
  | 5 =>
    refine yields_true.bind ?_
    intro relation _
    exact (yields_readText "key string").map fun _ htext => htext
  | tag + 6 => exact yields_throw _

variable {message : PackReader Message} {good : Message → Prop}

/-- The value has sound fields, and the message that it may be is good. -/
def GoodValue (good : Message → Prop) (value : SettingValue) : Prop :=
  value.Sound QuotedText.Faithful ∧ ∀ inner ∈ value.message?, good inner

/-- A string is read as its source, from which its text is made. -/
theorem yields_readValue (hm : message.Yields good) : (readValue message).Yields (GoodValue good) := by
  have hplain {value : SettingValue} (hs : value.Sound QuotedText.Faithful)
      (hnone : value.message? = none) : GoodValue good value :=
    ⟨hs, by simp [hnone]⟩
  refine yields_true.bind ?_
  intro tag _
  match tag with
  | 0 => exact yields_true.map fun _ _ => hplain trivial rfl
  | 1 =>
    refine hm.map ?_
    intro inner hinner
    refine ⟨trivial, ?_⟩
    simpa [SettingValue.message?] using hinner
  | 2 => exact yields_true.map fun _ _ => hplain trivial rfl
  | 3 =>
    refine (yields_readText "config value").map ?_
    intro source hsource
    exact hplain ⟨hsource, QuotedText.faithful_ofSource source⟩ rfl
  | tag + 4 => exact yields_throw _

/-- Settings with a number of entries, so far without a value for everything else. -/
structure GoodEntries (good : Message → Prop) (count : Nat) (settings : Settings SettingValue) :
    Prop where
  /-- No key repeats. -/
  distinct : settings.Distinct
  /-- The number of entries. -/
  count : settings.entries.length = count
  /-- Keys fit. -/
  keys : ∀ key ∈ settings.keys, key.Fits
  /-- Values are good. -/
  values : ∀ entry ∈ settings.entries, GoodValue good entry.2
  /-- Nothing stands for everything else. -/
  otherwise : settings.otherwise = none

theorem goodEntries_empty : GoodEntries good 0 {} := by
  refine ⟨Settings.distinct_empty, rfl, ?_, ?_, rfl⟩
  · intro key hk
    cases hk
  · intro entry he
    cases he

/-- An entry is added only if its key is new. -/
theorem GoodEntries.insert {count : Nat} {settings settings' : Settings SettingValue}
    {key : SettingKey} {value : SettingValue} (h : GoodEntries good count settings)
    (hk : key.Fits) (hv : GoodValue good value) (hi : settings.insert key value = .ok settings') :
    GoodEntries good (count + 1) settings' := by
  have hdistinct := h.distinct.insert hi
  unfold Settings.insert at hi
  split at hi
  · cases hi
  · obtain rfl := Except.ok.inj hi
    refine ⟨hdistinct, ?_, ?_, ?_, h.otherwise⟩
    · rw [List.length_append, h.count]
      rfl
    · intro other ho
      simp only [Settings.keys, List.map_append, List.mem_append] at ho
      rcases ho with ho | ho
      · exact h.keys other ho
      · obtain rfl := List.mem_singleton.1 ho
        exact hk
    · intro entry he
      rcases List.mem_append.1 he with he | he
      · exact h.values entry he
      · obtain rfl := List.mem_singleton.1 he
        exact hv

theorem yields_readEntries (hm : message.Yields good) {before count : Nat}
    {settings : Settings SettingValue} (h : GoodEntries good before settings) :
    (readEntries message count settings).Yields (GoodEntries good (before + count)) := by
  induction count generalizing before settings with
  | zero => exact yields_pure h
  | succ count ih =>
    refine yields_readKey.bind ?_
    intro key hk
    refine (yields_readValue hm).bind ?_
    intro value hv
    cases hi : settings.insert key value with
    | error e => exact yields_refuse _
    | ok settings' =>
      have hrest := ih (h.insert hk hv hi)
      rwa [Nat.add_right_comm, Nat.add_assoc] at hrest

/-- What is read as settings has sound fields, and the messages in it are good. -/
theorem yields_readSettings (hm : message.Yields good) :
    (readSettings message).Yields fun settings =>
      settings.Sound QuotedText.Faithful ∧
        ∀ value ∈ settings.values, ∀ inner ∈ value.message?, good inner := by
  refine yields_readCount.bind ?_
  intro count hcount
  refine (yields_readEntries hm goodEntries_empty).bind ?_
  intro settings hs
  rw [Nat.zero_add] at hs
  have hcounted : settings.entries.length < countLimit := by
    rw [hs.count]
    exact hcount
  refine yields_true.bind ?_
  intro more _
  cases more with
  | false =>
    refine yields_pure ?_
    have hvalues : ∀ value ∈ settings.values, GoodValue good value := by
      rw [Settings.forall_mem_values, hs.otherwise]
      exact ⟨hs.values, by simp⟩
    exact ⟨⟨hs.distinct, hcounted, hs.keys, fun v hv => (hvalues v hv).1⟩,
      fun v hv => (hvalues v hv).2⟩
  | true =>
    refine (yields_readValue hm).map ?_
    intro value hv
    have hvalues : ∀ v ∈ { settings with otherwise := some value : Settings SettingValue }.values,
        GoodValue good v := by
      rw [Settings.forall_mem_values]
      exact ⟨hs.values, by simpa using hv⟩
    exact ⟨⟨hs.distinct, hcounted, hs.keys, fun v hv => (hvalues v hv).1⟩,
      fun v hv => (hvalues v hv).2⟩

/-! ### Parts -/

/-- A part that is read has sound fields, and the messages in it are good. -/
theorem yields_readPart (hm : message.Yields good) :
    (readPart message).Yields fun part =>
      part.Sound QuotedText.Faithful ∧ ∀ inner ∈ part.inners, good inner := by
  have hliteral {text : Literal} (h : FitsLength text.text) :
      (Part.literal text).Sound QuotedText.Faithful ∧
        ∀ inner ∈ (Part.literal text).inners, good inner :=
    ⟨h, fun inner hi => absurd hi List.not_mem_nil⟩
  refine yields_true.bind ?_
  intro tag _
  match tag with
  | 0 => exact (yields_readText "text").map fun _ htext => hliteral htext
  | 1 =>
    refine yields_true.bind ?_
    intro before _
    refine yields_true.bind ?_
    intro after _
    exact (yields_readText "text").map fun _ htext => hliteral htext
  | 2 =>
    refine yields_true.bind ?_
    intro before _
    refine yields_true.bind ?_
    intro after _
    refine (yields_readText "parameter name").bind ?_
    intro name hname
    refine yields_readOptional.bind ?_
    intro format hformat
    refine (yields_readSettings hm).map ?_
    rintro settings ⟨hsound, hgood⟩
    refine ⟨⟨hname, hformat, hsound⟩, ?_⟩
    intro inner hi
    obtain ⟨value, hv, hvalue⟩ := List.mem_filterMap.1 hi
    exact hgood value hv inner hvalue
  | tag + 3 => exact yields_throw _

/-! ### Messages -/

/-- A locale is read from a tag, so it is read from its own tag, which has a few letters. -/
theorem yields_readVariant (hm : message.Yields good) :
    (readVariant message).Yields fun variant =>
      (FitsLength variant.1.tag ∧ variant.1.Readable) ∧ variant.2.isPlain ∧ good variant.2 := by
  refine (yields_readText "locale").bind ?_
  intro tag _
  cases hl : Locale.parse tag with
  | error e => exact yields_refuse _
  | ok locale =>
    refine hm.bind ?_
    intro variant hv
    by_cases hp : variant.isPlain = true
    · simp only [hp, if_true]
      exact yields_pure ⟨Locale.fits_of_parse hl, hp, hv⟩
    · simp only [hp]
      exact yields_refuse _

/-- At most `budget` messages lie on a path, and all messages are shaped and sound. -/
def GoodMessage (budget : Nat) (message : Message) : Prop :=
  message.PackableWithin budget ∧ message.AllSound QuotedText.Faithful Locale.Readable

/-- A message is good if it is shaped and sound itself and all that is right below it is good. -/
theorem goodMessage_succ {budget : Nat} {message : Message} (hshaped : message.Shaped)
    (hsound : message.Sound QuotedText.Faithful Locale.Readable)
    (hinners : ∀ inner ∈ message.inners, GoodMessage budget inner) :
    GoodMessage (budget + 1) message :=
  ⟨Message.packableWithin_succ_iff.2 ⟨hshaped, fun inner hi => (hinners inner hi).1⟩,
    ⟨hsound, fun inner hi => (hinners inner hi).2⟩⟩

/-- Messages that are read with a budget are good for it. -/
theorem yields_readMessage (budget : Nat) : (readMessage budget).Yields (GoodMessage budget) := by
  induction budget with
  | zero => exact yields_refuse .tooDeep
  | succ budget ih =>
    refine yields_true.bind ?_
    intro tag _
    match tag with
    | 0 =>
      refine yields_pure (goodMessage_succ trivial ⟨by decide, by simp [Message.parts]⟩ ?_)
      simp [Message.inners, Message.parts]
    | 1 =>
      refine (yields_readPart ih).map ?_
      rintro part ⟨hsound, hinners⟩
      refine goodMessage_succ trivial ⟨by simp [Message.parts, countLimit], ?_⟩ ?_
      · simpa [Message.parts] using hsound
      · simpa [Message.inners, Message.parts] using hinners
    | 2 =>
      refine yields_readCount.bind ?_
      intro count hcount
      refine yields_unless ?_
      intro hfew
      refine (yields_readMany (yields_readPart ih) count).map ?_
      rintro parts ⟨rfl, hparts⟩
      refine goodMessage_succ (Nat.le_of_not_lt hfew) ⟨hcount, fun part hp => (hparts part hp).1⟩ ?_
      intro inner hi
      obtain ⟨part, hp, hi⟩ := List.mem_flatMap.1 hi
      exact (hparts part hp).2 inner hi
    | 3 =>
      refine yields_readCount.bind ?_
      intro count hcount
      refine (yields_readMany (yields_readVariant ih) count).bind ?_
      rintro variants ⟨rfl, hvariants⟩
      refine yields_unless ?_
      intro hempty
      refine yields_pure (goodMessage_succ ⟨?_, fun v hv => (hvariants v hv).2.1⟩
        ⟨hcount, fun v hv => (hvariants v hv).1⟩ ?_)
      · simpa using hempty
      · exact List.forall_mem_map.2 fun v hv => (hvariants v hv).2.2
    | 4 =>
      refine (yields_readText "message code").bind ?_
      intro code hcode
      refine ih.bind ?_
      intro inner hinner
      refine yields_unless ?_
      intro hnested
      have hcode? : inner.code? = none := by simpa using hnested
      refine yields_pure (goodMessage_succ hcode? hcode ?_)
      exact List.forall_mem_singleton.2 hinner
    | tag + 5 => exact yields_throw _

theorem yields_readBody :
    readBody.Yields fun messages =>
      messages.length < countLimit ∧ ∀ message ∈ messages, message.WellFormed := by
  refine yields_readCount.bind ?_
  intro count hcount
  refine (yields_readMany (yields_readMessage nestingLimit) count).imp ?_
  rintro messages ⟨rfl, h⟩
  refine ⟨hcount, ?_⟩
  intro message hm
  obtain ⟨⟨hwithin, hshaped⟩, hsound⟩ := h message hm
  exact ⟨hwithin, hshaped, hsound⟩

end PackReader

/-! ### Packs -/

/-- Whatever bytes are unpacked, also such as no packer writes: the messages are well formed, they
    are the same messages when all that is equal in them is shared, and when they are packed again
    they are unpacked as they were. -/
theorem wellFormed_of_unpackMessages {pack : List UInt8} {messages : List Message}
    (h : unpackMessages pack = .ok messages) :
    (∀ message ∈ messages, message.WellFormed) ∧
      (shareAll messages).map SharedMessage.message = messages ∧
      unpackMessages (packMessages false messages) = .ok messages := by
  unfold unpackMessages at h
  split at h
  · cases h
  · rename_i body hbody
    obtain ⟨hcount, hgood⟩ := PackReader.yields_readBody (.ofBytes body) messages _
      (Prod.ext h rfl)
    refine ⟨hgood, ?_, ?_⟩
    · exact map_message_shareAll fun message hm => (hgood message hm).sound.allQuoted
    · apply unpackMessages_packMessages_of_packable hcount
      · intro message hm
        exact (hgood message hm).sound
      · intro message hm
        exact ⟨(hgood message hm).within, (hgood message hm).shaped⟩

/-- A place whose settings have a string and a message, with a byte behind it that no packer writes.
    -/
theorem wellFormed_of_unpackMessages_place :
    let settings : Settings SettingValue :=
      ⟨[(.bool true, .string ⟨"\\'", "'"⟩)], some (.message (.single (.literal { text := "m" })))⟩
    let message : Message := .single (.placeholder ⟨"n", none, settings, false, false⟩)
    let pack := packMark ++
      [headerByte false, 0x13, 0x08, 0x80, 0x6E, 0x04, 0x74, 0x80, 0x5C, 0x27, 0xA4, 0x44, 0x6D, 0xFF]
    unpackMessages pack = .ok [message] ∧ message.WellFormed ∧
      unpackMessages (packMessages false [message]) = .ok [message] ∧
      packMessages false [message] ≠ pack := by
  intro settings message pack
  have hread : unpackMessages pack = .ok [message] := rfl
  obtain ⟨hgood, -, hagain⟩ := wellFormed_of_unpackMessages hread
  refine ⟨hread, hgood message (List.mem_singleton_self _), hagain, ?_⟩
  decide

end Phrasebook
