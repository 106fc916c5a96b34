import Phrasebook.Proofs.Message.Sameness

/-! # Sameness is an equivalence

    Nodes that are the same are the same as the same nodes. So sameness divides nodes into
    structures, of which a pool keeps one instance each. Nothing is asked of the strings here: that
    what is the same is equal needs faithful ones. -/

namespace Phrasebook

theorem QuotedText.same_congr {a b : QuotedText} (h : a.same b = true) (c : QuotedText) :
    a.same c = b.same c := by
  have hsource : a.source = b.source := by simpa [same] using h
  rw [same, same, hsource]

mutual

theorem Message.same_congr {a b : Message} (h : a.same b = true) (c : Message) :
    a.same c = b.same c := by
  cases a with
  | empty =>
    cases b with
    | empty => rfl
    | single _ | multiple _ | localized _ | coded _ _ => simp [Message.same] at h
  | single part =>
    cases b with
    | single part' =>
      rw [Message.same] at h
      cases c with
      | single other =>
        rw [Message.same, Message.same]
        exact Part.same_congr h other
      | empty | multiple _ | localized _ | coded _ _ => simp only [Message.same]
    | empty | multiple _ | localized _ | coded _ _ => simp [Message.same] at h
  | multiple parts =>
    cases b with
    | multiple parts' =>
      rw [Message.same] at h
      cases c with
      | multiple others =>
        rw [Message.same, Message.same]
        exact Part.sameAll_congr h others
      | empty | single _ | localized _ | coded _ _ => simp only [Message.same]
    | empty | single _ | localized _ | coded _ _ => simp [Message.same] at h
  | localized variants =>
    cases b with
    | localized variants' =>
      rw [Message.same] at h
      cases c with
      | localized others =>
        rw [Message.same, Message.same]
        exact Message.sameVariants_congr h others
      | empty | single _ | multiple _ | coded _ _ => simp only [Message.same]
    | empty | single _ | multiple _ | coded _ _ => simp [Message.same] at h
  | coded code inner =>
    cases b with
    | coded code' inner' =>
      simp only [Message.same, Bool.and_eq_true, beq_iff_eq] at h
      obtain ⟨rfl, h⟩ := h
      cases c with
      | coded other message =>
        rw [Message.same, Message.same, Message.same_congr h message]
      | empty | single _ | multiple _ | localized _ => simp only [Message.same]
    | empty | single _ | multiple _ | localized _ => simp [Message.same] at h
termination_by structural a

theorem Part.same_congr {a b : Part} (h : a.same b = true) (c : Part) : a.same c = b.same c := by
  cases a with
  | literal text =>
    cases b with
    | literal text' => rw [show text = text' by simpa [Part.same] using h]
    | placeholder _ => simp [Part.same] at h
  | placeholder place =>
    cases b with
    | literal _ => simp [Part.same] at h
    | placeholder place' =>
      rw [Part.same] at h
      cases c with
      | literal _ => simp only [Part.same]
      | placeholder other =>
        rw [Part.same, Part.same]
        exact Placeholder.same_congr h other
termination_by structural a

theorem Placeholder.same_congr {a b : Placeholder} (h : a.same b = true) (c : Placeholder) :
    a.same c = b.same c := by
  obtain ⟨name, format, settings, before, after⟩ := a
  obtain ⟨name', format', settings', before', after'⟩ := b
  obtain ⟨_, _, others, _, _⟩ := c
  simp only [Placeholder.same, Bool.and_eq_true, beq_iff_eq] at h
  obtain ⟨⟨⟨⟨rfl, rfl⟩, rfl⟩, rfl⟩, h⟩ := h
  rw [Placeholder.same, Placeholder.same, Settings.same_congr h others]
termination_by structural a

theorem Settings.same_congr {a b : Settings SettingValue} (h : Settings.same a b = true)
    (c : Settings SettingValue) : Settings.same a c = Settings.same b c := by
  obtain ⟨entries, otherwise⟩ := a
  obtain ⟨entries', otherwise'⟩ := b
  obtain ⟨others, other⟩ := c
  simp only [Settings.same, Bool.and_eq_true] at h
  rw [Settings.same, Settings.same, SettingValue.sameEntries_congr h.1 others,
    SettingValue.sameOption_congr h.2 other]
termination_by structural a

theorem SettingValue.sameEntries_congr {as bs : List (SettingKey × SettingValue)}
    (h : SettingValue.sameEntries as bs = true) (cs : List (SettingKey × SettingValue)) :
    SettingValue.sameEntries as cs = SettingValue.sameEntries bs cs := by
  cases as with
  | nil =>
    cases bs with
    | nil => rfl
    | cons _ _ => simp [SettingValue.sameEntries] at h
  | cons entry as =>
    cases bs with
    | nil => simp [SettingValue.sameEntries] at h
    | cons entry' bs =>
      obtain ⟨key, value⟩ := entry
      obtain ⟨key', value'⟩ := entry'
      simp only [SettingValue.sameEntries, Bool.and_eq_true, beq_iff_eq] at h
      obtain ⟨⟨rfl, hvalue⟩, hrest⟩ := h
      cases cs with
      | nil => simp only [SettingValue.sameEntries]
      | cons entry'' cs =>
        obtain ⟨other, value''⟩ := entry''
        rw [SettingValue.sameEntries, SettingValue.sameEntries,
          SettingValue.same_congr hvalue value'', SettingValue.sameEntries_congr hrest cs]
termination_by structural as

theorem SettingValue.sameOption_congr {a b : Option SettingValue}
    (h : SettingValue.sameOption a b = true) (c : Option SettingValue) :
    SettingValue.sameOption a c = SettingValue.sameOption b c := by
  cases a with
  | none =>
    cases b with
    | none => rfl
    | some _ => simp [SettingValue.sameOption] at h
  | some value =>
    cases b with
    | none => simp [SettingValue.sameOption] at h
    | some value' =>
      rw [SettingValue.sameOption] at h
      cases c with
      | none => simp only [SettingValue.sameOption]
      | some other =>
        rw [SettingValue.sameOption, SettingValue.sameOption]
        exact SettingValue.same_congr h other
termination_by structural a

theorem SettingValue.same_congr {a b : SettingValue} (h : a.same b = true) (c : SettingValue) :
    a.same c = b.same c := by
  cases a with
  | bool flag =>
    cases b with
    | bool flag' => rw [show flag = flag' by simpa [SettingValue.same] using h]
    | message _ | number _ | string _ => simp [SettingValue.same] at h
  | number n =>
    cases b with
    | number n' => rw [show n = n' by simpa [SettingValue.same] using h]
    | bool _ | message _ | string _ => simp [SettingValue.same] at h
  | string quoted =>
    cases b with
    | string quoted' =>
      rw [SettingValue.same] at h
      cases c with
      | string other =>
        rw [SettingValue.same, SettingValue.same]
        exact QuotedText.same_congr h other
      | bool _ | message _ | number _ => simp only [SettingValue.same]
    | bool _ | message _ | number _ => simp [SettingValue.same] at h
  | message inner =>
    cases b with
    | message inner' =>
      rw [SettingValue.same] at h
      cases c with
      | message other =>
        rw [SettingValue.same, SettingValue.same]
        exact Message.same_congr h other
      | bool _ | number _ | string _ => simp only [SettingValue.same]
    | bool _ | number _ | string _ => simp [SettingValue.same] at h
termination_by structural a

theorem Part.sameAll_congr {as bs : List Part} (h : Part.sameAll as bs = true) (cs : List Part) :
    Part.sameAll as cs = Part.sameAll bs cs := by
  cases as with
  | nil =>
    cases bs with
    | nil => rfl
    | cons _ _ => simp [Part.sameAll] at h
  | cons part as =>
    cases bs with
    | nil => simp [Part.sameAll] at h
    | cons part' bs =>
      simp only [Part.sameAll, Bool.and_eq_true] at h
      cases cs with
      | nil => simp only [Part.sameAll]
      | cons other cs =>
        rw [Part.sameAll, Part.sameAll, Part.same_congr h.1 other, Part.sameAll_congr h.2 cs]
termination_by structural as

theorem Message.sameVariants_congr {as bs : List (Locale × Message)}
    (h : Message.sameVariants as bs = true) (cs : List (Locale × Message)) :
    Message.sameVariants as cs = Message.sameVariants bs cs := by
  cases as with
  | nil =>
    cases bs with
    | nil => rfl
    | cons _ _ => simp [Message.sameVariants] at h
  | cons variant as =>
    cases bs with
    | nil => simp [Message.sameVariants] at h
    | cons variant' bs =>
      obtain ⟨locale, message⟩ := variant
      obtain ⟨locale', message'⟩ := variant'
      simp only [Message.sameVariants, Bool.and_eq_true, beq_iff_eq] at h
      obtain ⟨⟨rfl, hmessage⟩, hrest⟩ := h
      cases cs with
      | nil => simp only [Message.sameVariants]
      | cons variant'' cs =>
        obtain ⟨other, message''⟩ := variant''
        rw [Message.sameVariants, Message.sameVariants, Message.same_congr hmessage message'',
          Message.sameVariants_congr hrest cs]
termination_by structural as

end

end Phrasebook
