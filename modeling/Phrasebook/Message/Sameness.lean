import Phrasebook.Message.Basic

/-!
# Structural sameness

Two nodes are the same if they are built alike and their strings have the same source form. What
strings stand for is not compared: the source form decides it.
-/

namespace Phrasebook

/-- Strings are the same if their source forms are. -/
def QuotedText.same (a b : QuotedText) : Bool := a.source == b.source

mutual

/-- Sameness of messages. -/
def Message.same : Message → Message → Bool
  | .empty, .empty => true
  | .single a, .single b => Part.same a b
  | .multiple as, .multiple bs => Part.sameAll as bs
  | .localized as, .localized bs => Message.sameVariants as bs
  | .coded code a, .coded code' b => code == code' && Message.same a b
  | _, _ => false

/-- Sameness of parts. -/
def Part.same : Part → Part → Bool
  | .literal a, .literal b => a == b
  | .placeholder a, .placeholder b => Placeholder.same a b
  | _, _ => false

/-- Sameness of placeholders. -/
def Placeholder.same : Placeholder → Placeholder → Bool
  | ⟨name, format, settings, before, after⟩, ⟨name', format', settings', before', after'⟩ =>
    name == name' && format == format' && before == before' && after == after' &&
      Settings.same settings settings'

/-- Sameness of settings. -/
def Settings.same : Settings SettingValue → Settings SettingValue → Bool
  | ⟨entries, otherwise⟩, ⟨entries', otherwise'⟩ =>
    SettingValue.sameEntries entries entries' && SettingValue.sameOption otherwise otherwise'

/-- Sameness of entries. -/
def SettingValue.sameEntries :
    List (SettingKey × SettingValue) → List (SettingKey × SettingValue) → Bool
  | [], [] => true
  | (key, a) :: as, (key', b) :: bs =>
    key == key' && SettingValue.same a b && SettingValue.sameEntries as bs
  | _, _ => false

/-- Sameness of optional values. -/
def SettingValue.sameOption : Option SettingValue → Option SettingValue → Bool
  | none, none => true
  | some a, some b => SettingValue.same a b
  | _, _ => false

/-- Sameness of values. -/
def SettingValue.same : SettingValue → SettingValue → Bool
  | .bool a, .bool b => a == b
  | .number a, .number b => a == b
  | .string a, .string b => a.same b
  | .message a, .message b => Message.same a b
  | _, _ => false

/-- Sameness of lists of parts. -/
def Part.sameAll : List Part → List Part → Bool
  | [], [] => true
  | a :: as, b :: bs => Part.same a b && Part.sameAll as bs
  | _, _ => false

/-- Sameness of variants. -/
def Message.sameVariants : List (Locale × Message) → List (Locale × Message) → Bool
  | [], [] => true
  | (locale, a) :: as, (locale', b) :: bs =>
    locale == locale' && Message.same a b && Message.sameVariants as bs
  | _, _ => false

end

end Phrasebook
