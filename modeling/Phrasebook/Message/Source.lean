import Phrasebook.Message.Basic
import Phrasebook.Text.Joining

/-!
# Messages as template source

`Message.source` writes a message as a template. Parts are joined by one space where a flag asks
for it; strings keep the source form they were read from. Localized messages are written one
variant a line, for people only.
-/

namespace Phrasebook

/-- A space if the flag is set. -/
def spaceIf (flag : Bool) : String := if flag then " " else ""

namespace Message

mutual

/-- The message as template source. -/
def source : Message → String
  | empty => ""
  | single part => spaceIf part.spaceBefore ++ partSource part ++ spaceIf part.spaceAfter
  | multiple parts => partsSource false parts
  | localized variants => joinWith "\n" (variantsSource variants)
  | coded _ message => message.source

/-- Parts behind a place whose flag asks for a space. -/
def partsSource : (spaced : Bool) → List Part → String
  | spaced, [] => spaceIf spaced
  | spaced, part :: parts =>
    spaceIf (spaced || part.spaceBefore) ++ partSource part ++ partsSource part.spaceAfter parts

/-- One part without the spaces around it. -/
def partSource : Part → String
  | .literal text => escapeLiteral text.text
  | .placeholder place => placeSource place

/-- A placeholder. -/
def placeSource : Placeholder → String
  | ⟨name, format, settings, _, _⟩ =>
    "%\x7b" ++ name ++ (format.map ("," ++ ·)).getD "" ++
      (if settings.isEmpty then "" else "," ++ settingsSource settings) ++ "\x7d"

/-- Entries and the value for everything else, separated by commas. -/
def settingsSource : Settings SettingValue → String
  | ⟨entries, otherwise⟩ => joinWith "," (entriesSource entries ++ otherwiseSource otherwise)

/-- The entries, each a key and a value. -/
def entriesSource : List (SettingKey × SettingValue) → List String
  | [] => []
  | (key, value) :: entries => (key.source ++ ":" ++ valueSource value) :: entriesSource entries

/-- The value for everything else, if there is one. -/
def otherwiseSource : Option SettingValue → List String
  | none => []
  | some value => [":" ++ valueSource value]

/-- A value; strings and messages are quoted. -/
def valueSource : SettingValue → String
  | .bool value => boolText value
  | .number value => intText value.toInt
  | .string quoted => quoteSource quoted.source
  | .message message => quoteSource message.source

/-- Variants, each on a line behind its locale. -/
def variantsSource : List (Locale × Message) → List String
  | [] => []
  | (locale, message) :: variants =>
    ("[" ++ locale.displayName ++ "] " ++ message.source) :: variantsSource variants

end

end Message

end Phrasebook
