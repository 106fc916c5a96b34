import Phrasebook.Sharing.Pool

/-!
# Sharing whole messages

A message from a pack is shared from the leaves up: the messages among the settings of a part come in
front of the part, and the parts or inner messages in front of the message.
-/

namespace Phrasebook

mutual

/-- Shares a message and all nodes in it. -/
def Message.shareTree : Message → StateM Pool SharedMessage
  | .empty => Pool.shareWith .empty []
  | .single part => do
    let part ← Part.shareTree part
    Pool.shareWith (.single part.part) [part.id]
  | .multiple parts => do
    let parts ← Part.shareTrees parts
    Pool.shareWith (.multiple (parts.map SharedPart.part)) (parts.map SharedPart.id)
  | .localized variants => do
    let variants ← Message.shareVariants variants
    Pool.shareWith (.localized variants) []
  | .coded code message => do
    let inner ← Message.shareTree message
    Pool.shareWith (.coded code inner.message) []

/-- Shares a part and all nodes in it. -/
def Part.shareTree : Part → StateM Pool SharedPart
  | .literal text => Pool.sharePart (.literal text)
  | .placeholder place => do
    let place ← Placeholder.shareTree place
    Pool.sharePart (.placeholder place)

/-- Shares the nodes in a placeholder. -/
def Placeholder.shareTree : Placeholder → StateM Pool Placeholder
  | ⟨name, format, settings, spaceBefore, spaceAfter⟩ => do
    let settings ← Settings.shareTree settings
    return ⟨name, format, settings, spaceBefore, spaceAfter⟩

/-- Shares the nodes in settings. -/
def Settings.shareTree : Settings SettingValue → StateM Pool (Settings SettingValue)
  | ⟨entries, otherwise⟩ => do
    let entries ← SettingValue.shareEntries entries
    let otherwise ← SettingValue.shareOption otherwise
    return ⟨entries, otherwise⟩

/-- Shares the nodes in entries. -/
def SettingValue.shareEntries :
    List (SettingKey × SettingValue) → StateM Pool (List (SettingKey × SettingValue))
  | [] => return []
  | (key, value) :: entries => do
    let value ← SettingValue.shareTree value
    let entries ← SettingValue.shareEntries entries
    return (key, value) :: entries

/-- Shares the nodes in a value that may be absent. -/
def SettingValue.shareOption : Option SettingValue → StateM Pool (Option SettingValue)
  | none => return none
  | some value => do
    let value ← SettingValue.shareTree value
    return some value

/-- Shares the nodes in a value. -/
def SettingValue.shareTree : SettingValue → StateM Pool SettingValue
  | .bool value => return .bool value
  | .number value => return .number value
  | .string quoted => return .string quoted
  | .message message => do
    let shared ← Message.shareTree message
    return .message shared.message

/-- Shares parts and all nodes in them. -/
def Part.shareTrees : List Part → StateM Pool (List SharedPart)
  | [] => return []
  | part :: parts => do
    let part ← Part.shareTree part
    let parts ← Part.shareTrees parts
    return part :: parts

/-- Shares the messages of variants and all nodes in them. -/
def Message.shareVariants :
    List (Locale × Message) → StateM Pool (List (Locale × Message))
  | [] => return []
  | (locale, message) :: variants => do
    let shared ← Message.shareTree message
    let variants ← Message.shareVariants variants
    return (locale, shared.message) :: variants

end

/-- Messages with all equal nodes shared, by a pool that keeps all. -/
def shareAll (messages : List Message) : List SharedMessage :=
  ((messages.mapM Message.shareTree : StateM Pool _).run { policy := .unbounded }).1

end Phrasebook
