import Phrasebook.Locale
import Phrasebook.Message.Settings

/-!
# Messages

A message is a list of literal texts and placeholders, a choice among localized messages, or a
message with a code. Placeholders carry settings whose values may again be messages, or strings
that are read as templates when they are needed.

The module holds the types, the folding of empty literals, the views `parts`, `code`, `locales` and
`placeholders`, and the variant for a locale.
-/

namespace Phrasebook

/-- A string value: as it is written in a template, and with its escape sequences resolved. -/
structure QuotedText where
  /-- The source form. -/
  source : String
  /-- What the source stands for. -/
  text : String
deriving DecidableEq, Repr, Inhabited

namespace QuotedText

/-- The value whose resolved form is the text. -/
def ofText (text : String) : QuotedText := ⟨escape text, text⟩

/-- The value whose source form is given. -/
def ofSource (source : String) : QuotedText := ⟨source, unescape source⟩

end QuotedText

/-- Literal text. Spaces around it are kept as flags. -/
structure Literal where
  /-- The text. -/
  text : String
  /-- A space belongs in front of the text. -/
  spaceBefore : Bool := false
  /-- A space belongs behind the text. -/
  spaceAfter : Bool := false
deriving DecidableEq, Repr, Inhabited

mutual

/-- What a template says. -/
inductive Message where
  /-- Nothing. -/
  | empty
  /-- One part. -/
  | single (part : Part)
  /-- Several parts in order. -/
  | multiple (parts : List Part)
  /-- Messages for locales in the order of their declaration. -/
  | localized (variants : List (Locale × Message))
  /-- A message with a code. -/
  | coded (code : String) (message : Message)

/-- A piece of a message. -/
inductive Part where
  /-- Literal text. -/
  | literal (text : Literal)
  /-- The place of a parameter. -/
  | placeholder (place : Placeholder)

/-- The place of a parameter: its name, an optional format, and settings. -/
structure Placeholder where
  /-- Name of the parameter. -/
  name : String
  /-- Name of the format. -/
  format : Option String
  /-- What the format may use. -/
  settings : Settings SettingValue
  /-- A space belongs in front of the place. -/
  spaceBefore : Bool
  /-- A space belongs behind the place. -/
  spaceAfter : Bool

/-- A value in the settings of a placeholder. -/
inductive SettingValue where
  /-- A truth value. -/
  | bool (value : Bool)
  /-- A message. -/
  | message (message : Message)
  /-- An integer. -/
  | number (value : Int64)
  /-- A string. -/
  | string (quoted : QuotedText)

end

instance : Inhabited Message := ⟨.empty⟩
instance : Inhabited Part := ⟨.literal default⟩

/-! ## Parts -/

namespace Part

/-- A space belongs in front of the part. -/
def spaceBefore : Part → Bool
  | literal text => text.spaceBefore
  | placeholder place => place.spaceBefore

/-- A space belongs behind the part. -/
def spaceAfter : Part → Bool
  | literal text => text.spaceAfter
  | placeholder place => place.spaceAfter

/-- Tells whether the part is literal text without characters. -/
def isEmptyText : Part → Bool
  | literal text => text.text.isEmpty
  | placeholder _ => false

/-- Adds space flags to those of the part. -/
def addSpaces (before after : Bool) : Part → Part
  | literal text =>
    literal { text with
      spaceBefore := text.spaceBefore || before, spaceAfter := text.spaceAfter || after }
  | placeholder place =>
    placeholder { place with
      spaceBefore := place.spaceBefore || before, spaceAfter := place.spaceAfter || after }

/-- Folds the empty literals behind a part into its flag. -/
def foldBehind : Part → List Part → List Part
  | last, [] => [last]
  | last, part :: parts =>
    if part.isEmptyText then
      foldBehind (last.addSpaces false (part.spaceBefore || part.spaceAfter)) parts
    else last :: foldBehind part parts

/-- Drops empty literals. Their space flags move to the part in front of them, those of leading
    ones to the part behind. The flag tells that an earlier leading literal was spaced. -/
def foldEmptyFrom : (pending : Bool) → List Part → List Part
  | _, [] => []
  | pending, part :: parts =>
    if part.isEmptyText then foldEmptyFrom (pending || part.spaceBefore || part.spaceAfter) parts
    else foldBehind (part.addSpaces pending false) parts

/-- Drops empty literals; their space flags move to the neighbouring parts. -/
def foldEmpty (parts : List Part) : List Part := foldEmptyFrom false parts

@[simp] theorem addSpaces_false (part : Part) : part.addSpaces false false = part := by
  cases part with
  | literal text => simp [addSpaces]
  | placeholder place => cases place; simp [addSpaces]

@[simp] theorem isEmptyText_addSpaces (part : Part) (before after : Bool) :
    (part.addSpaces before after).isEmptyText = part.isEmptyText := by
  cases part <;> rfl

theorem not_isEmptyText_of_mem_foldBehind {last part : Part} {parts : List Part}
    (hl : last.isEmptyText = false) (h : part ∈ foldBehind last parts) :
    part.isEmptyText = false := by
  induction parts generalizing last with
  | nil => simp [foldBehind] at h; exact h ▸ hl
  | cons p ps ih =>
    simp only [foldBehind] at h
    split at h
    · exact ih (by simpa using hl) h
    · rename_i hp
      simp at h
      rcases h with rfl | h
      · exact hl
      · exact ih (by simpa using hp) h

theorem not_isEmptyText_of_mem_foldEmptyFrom {pending : Bool} {part : Part} {parts : List Part}
    (h : part ∈ foldEmptyFrom pending parts) : part.isEmptyText = false := by
  induction parts generalizing pending with
  | nil => simp [foldEmptyFrom] at h
  | cons p ps ih =>
    simp only [foldEmptyFrom] at h
    split at h
    · exact ih h
    · rename_i hp
      exact not_isEmptyText_of_mem_foldBehind (by simpa using hp) h

/-- Folding leaves no empty literal. -/
theorem not_isEmptyText_of_mem_foldEmpty {part : Part} {parts : List Part}
    (h : part ∈ foldEmpty parts) : part.isEmptyText = false :=
  not_isEmptyText_of_mem_foldEmptyFrom h

end Part

/-! ## Messages -/

namespace Message

/-- The message of parts: none is the empty message, one a single part. -/
def ofParts (parts : List Part) : Message :=
  match Part.foldEmpty parts with
  | [] => .empty
  | [part] => .single part
  | parts => .multiple parts

/-- One literal is a message, unless it has no characters. -/
theorem ofParts_literal (text : Literal) :
    ofParts [.literal text] = if text.text.isEmpty then .empty else .single (.literal text) := by
  unfold ofParts Part.foldEmpty Part.foldEmptyFrom
  cases ht : text.text.isEmpty with
  | true => rw [if_pos (show (Part.literal text).isEmptyText = true from ht)]; rfl
  | false =>
    rw [if_neg (by simp [Part.isEmptyText, ht]), Part.addSpaces_false]
    rfl

/-- The message that consists of literal text only. -/
def ofText (text : String) : Message := ofParts [.literal { text }]

/-- The code, if the message has one at its root. -/
def code? : Message → Option String
  | coded code _ => some code
  | _ => none

/-- The message below its codes. -/
def withoutCode : Message → Message
  | coded _ message => message.withoutCode
  | message => message

/-- Tells whether the message says nothing, whatever its codes. -/
def isEmpty : Message → Bool
  | empty => true
  | coded _ message => message.isEmpty
  | _ => false

/-- The parts of a message of parts. -/
def parts : Message → List Part
  | single part => [part]
  | multiple parts => parts
  | _ => []

/-- The declared locales in order. -/
def locales (message : Message) : List Locale :=
  match message.withoutCode with
  | localized variants => variants.map Prod.fst
  | _ => []

/-- The variant for a locale, looked up below codes and within variants; a message without
    variants is its own. -/
def forLocale (locale : Locale) (message : Message) : Message :=
  match _hm : message.withoutCode with
  | localized variants =>
    match _h : selectVariant variants locale with
    | some variant => variant.forLocale locale
    | none => message
  | other => other
termination_by sizeOf message
decreasing_by
  obtain ⟨l, hl⟩ := mem_of_selectVariant _h
  have h1 := List.sizeOf_lt_of_mem hl
  have h2 : sizeOf message.withoutCode ≤ sizeOf message := by
    clear _hm
    induction message using withoutCode.induct with
    | case1 code message ih => simp [withoutCode]; omega
    | case2 message h => cases message <;> simp_all [withoutCode]
  rw [_hm] at h2
  simp at h1 h2
  omega

/-! ## Placeholders of a message -/

mutual

/-- The placeholders of the message and of the messages among their settings. -/
def placeholders : Message → List Placeholder
  | empty => []
  | single part => partPlaceholders part
  | multiple parts => partsPlaceholders parts
  | localized variants => variantsPlaceholders variants
  | coded _ message => message.placeholders

/-- The placeholders of one part. -/
def partPlaceholders : Part → List Placeholder
  | .literal _ => []
  | .placeholder place => placePlaceholders place

/-- A placeholder and those among its settings. -/
def placePlaceholders : Placeholder → List Placeholder
  | ⟨name, format, settings, spaceBefore, spaceAfter⟩ =>
    ⟨name, format, settings, spaceBefore, spaceAfter⟩ :: settingsPlaceholders settings

/-- The placeholders of all messages in settings. -/
def settingsPlaceholders : Settings SettingValue → List Placeholder
  | ⟨entries, otherwise⟩ => entriesPlaceholders entries ++ otherwisePlaceholders otherwise

/-- The placeholders of all messages in entries. -/
def entriesPlaceholders : List (SettingKey × SettingValue) → List Placeholder
  | [] => []
  | (_, value) :: entries => valuePlaceholders value ++ entriesPlaceholders entries

/-- The placeholders of an optional value. -/
def otherwisePlaceholders : Option SettingValue → List Placeholder
  | none => []
  | some value => valuePlaceholders value

/-- The placeholders of a value that is a message. -/
def valuePlaceholders : SettingValue → List Placeholder
  | .message message => message.placeholders
  | .bool _ | .number _ | .string _ => []

/-- The placeholders of parts. -/
def partsPlaceholders : List Part → List Placeholder
  | [] => []
  | part :: parts => partPlaceholders part ++ partsPlaceholders parts

/-- The placeholders of variants. -/
def variantsPlaceholders : List (Locale × Message) → List Placeholder
  | [] => []
  | (_, message) :: variants => message.placeholders ++ variantsPlaceholders variants

end

end Message

namespace SettingValue

/-- The string that the value is. -/
def quoted? : SettingValue → Option QuotedText
  | string quoted => some quoted
  | _ => none

end SettingValue

/-- The string values in the settings of a placeholder. -/
def Placeholder.quoted (place : Placeholder) : List QuotedText :=
  place.settings.values.filterMap SettingValue.quoted?

/-- Names in order of code points without repetition. -/
def sortNames (names : List String) : List String :=
  (names.mergeSort fun a b => decide (a ≤ b)).eraseReps

/-- Names of the parameters of a message and of the messages among its settings, sorted. -/
def Message.parameterNames (message : Message) : List String :=
  sortNames (message.placeholders.map Placeholder.name)

end Phrasebook
