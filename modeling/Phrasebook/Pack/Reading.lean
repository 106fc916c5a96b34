import Phrasebook.Message.Basic
import Phrasebook.Pack.Text

/-!
# Unpacking messages

The reader accepts what makes well-formed messages: at most `nestingLimit` messages inside each
other, at least two parts in a message of several, variants that are plain messages, no code below a
code, and no key twice in the same settings.
-/

namespace Phrasebook

/-- The most messages inside each other. -/
def nestingLimit : Nat := 64

/-- Tells whether a message has neither a code nor variants. -/
def Message.isPlain : Message → Bool
  | .localized _ | .coded _ _ => false
  | _ => true

namespace PackReader

/-- Reads a comparator. -/
def readRelation : PackReader Comparator := do
  let tag ← readTag 3
  match Comparator.ofOrdinal? tag with
  | some relation => return relation
  | none => throw (.unknownTag .comparator tag)

/-- Reads a key. -/
def readKey : PackReader SettingKey := do
  match ← readTag 3 with
  | 0 => return .bool (← readBool)
  | 1 => return .empty (← readRelation)
  | 2 => return .name (← readText "key name")
  | 3 => return .null (← readRelation)
  | 4 => return .number (← readRelation) (← readInteger)
  | 5 => return .string (← readRelation) (← readText "key string")
  | tag => throw (.unknownTag .key tag)

/-- Reads a value of settings, given how a message in it is read. -/
def readValue (message : PackReader Message) : PackReader SettingValue := do
  match ← readTag 2 with
  | 0 => return .bool (← readBool)
  | 1 => return .message (← message)
  | 2 => return .number (← readInteger)
  | 3 => return .string (.ofSource (← readText "config value"))
  | tag => throw (.unknownTag .value tag)

/-- Reads entries and adds them to settings. -/
def readEntries (message : PackReader Message) :
    (count : Nat) → Settings SettingValue → PackReader (Settings SettingValue)
  | 0, settings => return settings
  | count + 1, settings => do
    let key ← readKey
    let value ← readValue message
    match settings.insert key value with
    | .ok settings => readEntries message count settings
    | .error _ => refuse (.duplicateKey key)

/-- Reads settings. -/
def readSettings (message : PackReader Message) : PackReader (Settings SettingValue) := do
  let settings ← readEntries message (← readCount) {}
  if ← readBool then return { settings with otherwise := some (← readValue message) }
  else return settings

/-- Reads a part. -/
def readPart (message : PackReader Message) : PackReader Part := do
  match ← readTag 2 with
  | 0 => return .literal { text := ← readText "text" }
  | 1 =>
    let spaceBefore ← readBool
    let spaceAfter ← readBool
    return .literal ⟨← readText "text", spaceBefore, spaceAfter⟩
  | 2 =>
    let spaceBefore ← readBool
    let spaceAfter ← readBool
    let name ← readText "parameter name"
    let format ← readOptional
    let settings ← readSettings message
    return .placeholder ⟨name, format, settings, spaceBefore, spaceAfter⟩
  | tag => throw (.unknownTag .part tag)

/-- Reads a variant. -/
def readVariant (message : PackReader Message) : PackReader (Locale × Message) := do
  let tag ← readText "locale"
  match Locale.parse tag with
  | .error e => refuse (.locale e)
  | .ok locale =>
    let variant ← message
    if variant.isPlain then return (locale, variant) else refuse (.variantNotPlain tag)

/-- Reads a message with at most a number of messages inside each other. -/
def readMessage : (budget : Nat) → PackReader Message
  | 0 => refuse .tooDeep
  | budget + 1 => do
    let inner := readMessage budget
    match ← readTag 3 with
    | 0 => return .empty
    | 1 => return .single (← readPart inner)
    | 2 =>
      let count ← readCount
      if count < 2 then refuse (.fewParts count)
      else return .multiple (← readMany (readPart inner) count)
    | 3 =>
      let variants ← readMany (readVariant inner) (← readCount)
      if variants.isEmpty then refuse .noVariants else return .localized variants
    | 4 =>
      let code ← readText "message code"
      let message ← inner
      if message.code?.isSome then refuse (.nestedCode code) else return .coded code message
    | tag => throw (.unknownTag .message tag)

/-- Reads the messages of a body. What is behind them is passed over. -/
def readBody : PackReader (List Message) := do
  readMany (readMessage nestingLimit) (← readCount)

end PackReader

/-- The messages of a body. -/
def unpackBody (bytes : List UInt8) : Except PackError (List Message) :=
  (PackReader.readBody.run (.ofBytes bytes)).1

end Phrasebook
