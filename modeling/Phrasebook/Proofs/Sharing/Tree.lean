import Phrasebook.Proofs.Sharing.Pool
import Phrasebook.Sharing.Tree

/-! # Sharing a tree leaves it what it is

    A message from a pack is shared from the leaves up, and each node is rebuilt from what was
    handed out for the nodes inside it. Since that is what was asked for, the tree does not change.
    -/

namespace Phrasebook

open Pool (Gives gives_pure gives_sharePart gives_shareWith)

mutual

/-- A message is handed out as it is. -/
theorem Message.gives_shareTree (message : Message) (h : message.AllQuoted QuotedText.Faithful) :
    Gives (fun shared => shared.message = message) message.shareTree := by
  cases message with
  | empty => exact gives_shareWith h []
  | single part =>
    have hpart := Part.gives_shareTree part (Message.allQuoted_single.1 h)
    unfold Message.shareTree
    apply hpart.bind
    rintro shared rfl
    exact gives_shareWith h _
  | multiple parts =>
    have hparts := Part.gives_shareTrees parts (Message.allQuoted_multiple.1 h)
    unfold Message.shareTree
    apply hparts.bind
    rintro shared rfl
    exact gives_shareWith h _
  | localized variants =>
    have hvariants := Message.gives_shareVariants variants (Message.allQuoted_localized.1 h)
    unfold Message.shareTree
    apply hvariants.bind
    rintro shared rfl
    exact gives_shareWith h []
  | coded code message =>
    have hmessage := Message.gives_shareTree message (Message.allQuoted_coded.1 h)
    unfold Message.shareTree
    apply hmessage.bind
    rintro shared rfl
    exact gives_shareWith h []
termination_by structural message

theorem Part.gives_shareTree (part : Part) (h : part.AllQuoted QuotedText.Faithful) :
    Gives (fun shared => shared.part = part) part.shareTree := by
  cases part with
  | literal text => exact gives_sharePart h
  | placeholder place =>
    have hplace := Placeholder.gives_shareTree place h
    unfold Part.shareTree
    apply hplace.bind
    rintro shared rfl
    exact gives_sharePart h
termination_by structural part

theorem Placeholder.gives_shareTree (place : Placeholder)
    (h : ∀ value ∈ place.settings.values, value.AllQuoted QuotedText.Faithful) :
    Gives (fun shared => shared = place) place.shareTree := by
  obtain ⟨name, format, settings, before, after⟩ := place
  have hsettings := Settings.gives_shareTree settings h
  unfold Placeholder.shareTree
  apply hsettings.bind
  rintro shared rfl
  exact gives_pure rfl
termination_by structural place

theorem Settings.gives_shareTree (settings : Settings SettingValue)
    (h : ∀ value ∈ settings.values, value.AllQuoted QuotedText.Faithful) :
    Gives (fun shared => shared = settings) (Settings.shareTree settings) := by
  obtain ⟨entries, otherwise⟩ := settings
  rw [Settings.forall_mem_values] at h
  have hentries := SettingValue.gives_shareEntries entries h.1
  have hotherwise := SettingValue.gives_shareOption otherwise h.2
  unfold Settings.shareTree
  apply hentries.bind
  rintro shared rfl
  apply hotherwise.bind
  rintro shared' rfl
  exact gives_pure rfl
termination_by structural settings

theorem SettingValue.gives_shareEntries (entries : List (SettingKey × SettingValue))
    (h : ∀ entry ∈ entries, entry.2.AllQuoted QuotedText.Faithful) :
    Gives (fun shared => shared = entries) (SettingValue.shareEntries entries) := by
  cases entries with
  | nil => exact gives_pure rfl
  | cons entry entries =>
    obtain ⟨key, value⟩ := entry
    rw [List.forall_mem_cons] at h
    have hvalue := SettingValue.gives_shareTree value h.1
    have hentries := SettingValue.gives_shareEntries entries h.2
    unfold SettingValue.shareEntries
    apply hvalue.bind
    rintro shared rfl
    apply hentries.bind
    rintro shared' rfl
    exact gives_pure rfl
termination_by structural entries

theorem SettingValue.gives_shareOption (value : Option SettingValue)
    (h : ∀ v ∈ value, v.AllQuoted QuotedText.Faithful) :
    Gives (fun shared => shared = value) (SettingValue.shareOption value) := by
  cases value with
  | none => exact gives_pure rfl
  | some value =>
    have hvalue := SettingValue.gives_shareTree value (h value rfl)
    unfold SettingValue.shareOption
    apply hvalue.bind
    rintro shared rfl
    exact gives_pure rfl
termination_by structural value

theorem SettingValue.gives_shareTree (value : SettingValue)
    (h : value.AllQuoted QuotedText.Faithful) :
    Gives (fun shared => shared = value) value.shareTree := by
  cases value with
  | message message =>
    have hmessage := Message.gives_shareTree message (SettingValue.allQuoted_message.1 h)
    unfold SettingValue.shareTree
    apply hmessage.bind
    rintro shared rfl
    exact gives_pure rfl
  | bool _ | number _ | string _ => exact gives_pure rfl
termination_by structural value

theorem Part.gives_shareTrees (parts : List Part)
    (h : ∀ part ∈ parts, part.AllQuoted QuotedText.Faithful) :
    Gives (fun shared => shared.map SharedPart.part = parts) (Part.shareTrees parts) := by
  cases parts with
  | nil => exact gives_pure rfl
  | cons part parts =>
    rw [List.forall_mem_cons] at h
    have hpart := Part.gives_shareTree part h.1
    have hparts := Part.gives_shareTrees parts h.2
    unfold Part.shareTrees
    apply hpart.bind
    rintro shared rfl
    apply hparts.bind
    rintro shared' rfl
    exact gives_pure rfl
termination_by structural parts

theorem Message.gives_shareVariants (variants : List (Locale × Message))
    (h : ∀ variant ∈ variants, variant.2.AllQuoted QuotedText.Faithful) :
    Gives (fun shared => shared = variants) (Message.shareVariants variants) := by
  cases variants with
  | nil => exact gives_pure rfl
  | cons variant variants =>
    obtain ⟨locale, message⟩ := variant
    rw [List.forall_mem_cons] at h
    have hmessage := Message.gives_shareTree message h.1
    have hvariants := Message.gives_shareVariants variants h.2
    unfold Message.shareVariants
    apply hmessage.bind
    rintro shared rfl
    apply hvariants.bind
    rintro shared' rfl
    exact gives_pure rfl
termination_by structural variants

end

/-- Messages from a pack are the same messages when all that is equal in them is shared. -/
theorem map_message_shareAll {messages : List Message}
    (h : ∀ message ∈ messages, message.AllQuoted QuotedText.Faithful) :
    (shareAll messages).map SharedMessage.message = messages := by
  have hall := Pool.gives_mapM fun message hm => Message.gives_shareTree message (h message hm)
  exact (hall _ (Pool.faithful_new .unbounded)).1

end Phrasebook
