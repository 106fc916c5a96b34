import Phrasebook.Message.Basic
import Phrasebook.Pack.Text

/-!
# Packing messages

Messages are packed as tags and fields, parts and settings included. Whatever message there is can be
packed; which ones can be unpacked again is for the reader to say. Strings in settings are packed in
their source form only.
-/

namespace Phrasebook

/-- A tag of some bits. -/
def tagChunk (width tag : Nat) : Chunk := .bits (bitsOf width tag)

/-- A single bit. -/
def flagChunk (flag : Bool) : Chunk := .bits [flag]

/-- A count. -/
def countChunk (count : Nat) : Chunk := .bits (countBits count)

/-- The chunks of a comparator. -/
def Comparator.chunk (relation : Comparator) : Chunk := tagChunk 3 relation.ordinal

/-- The chunks of a key. -/
def SettingKey.chunks : SettingKey → List Chunk
  | .bool value => [tagChunk 3 0, flagChunk value]
  | .empty relation => [tagChunk 3 1, relation.chunk]
  | .name word => tagChunk 3 2 :: textChunks word
  | .null relation => [tagChunk 3 3, relation.chunk]
  | .number relation value => [tagChunk 3 4, relation.chunk, .bits (integerBits value)]
  | .string relation text => tagChunk 3 5 :: relation.chunk :: textChunks text

/-- The chunks of literal text; without flags there is a shorter form. -/
def Literal.chunks (text : Literal) : List Chunk :=
  if !text.spaceBefore && !text.spaceAfter then tagChunk 2 0 :: textChunks text.text
  else
    tagChunk 2 1 :: flagChunk text.spaceBefore :: flagChunk text.spaceAfter ::
      textChunks text.text

mutual

/-- The chunks of a message. -/
def Message.chunks : Message → List Chunk
  | .empty => [tagChunk 3 0]
  | .single part => tagChunk 3 1 :: Part.chunks part
  | .multiple parts => tagChunk 3 2 :: countChunk parts.length :: Part.allChunks parts
  | .localized variants =>
    tagChunk 3 3 :: countChunk variants.length :: Message.variantChunks variants
  | .coded code message => tagChunk 3 4 :: (textChunks code ++ Message.chunks message)

/-- The chunks of a part. -/
def Part.chunks : Part → List Chunk
  | .literal text => text.chunks
  | .placeholder place => Placeholder.chunks place

/-- The chunks of a placeholder. -/
def Placeholder.chunks : Placeholder → List Chunk
  | ⟨name, format, settings, spaceBefore, spaceAfter⟩ =>
    tagChunk 2 2 :: flagChunk spaceBefore :: flagChunk spaceAfter ::
      (textChunks name ++ optionalChunks format ++ Settings.chunks settings)

/-- The chunks of settings: the number of entries, the entries, and the value for everything else
    behind a flag. -/
def Settings.chunks : Settings SettingValue → List Chunk
  | ⟨entries, otherwise⟩ =>
    countChunk entries.length ::
      (SettingValue.entryChunks entries ++ SettingValue.optionChunks otherwise)

/-- The chunks of entries. -/
def SettingValue.entryChunks : List (SettingKey × SettingValue) → List Chunk
  | [] => []
  | (key, value) :: entries =>
    key.chunks ++ SettingValue.chunks value ++ SettingValue.entryChunks entries

/-- The chunks of a value that may be absent. -/
def SettingValue.optionChunks : Option SettingValue → List Chunk
  | none => [flagChunk false]
  | some value => flagChunk true :: SettingValue.chunks value

/-- The chunks of a value. -/
def SettingValue.chunks : SettingValue → List Chunk
  | .bool value => [tagChunk 2 0, flagChunk value]
  | .message message => tagChunk 2 1 :: Message.chunks message
  | .number value => [tagChunk 2 2, .bits (integerBits value)]
  | .string quoted => tagChunk 2 3 :: textChunks quoted.source

/-- The chunks of parts. -/
def Part.allChunks : List Part → List Chunk
  | [] => []
  | part :: parts => Part.chunks part ++ Part.allChunks parts

/-- The chunks of variants, each behind its locale tag. -/
def Message.variantChunks : List (Locale × Message) → List Chunk
  | [] => []
  | (locale, message) :: variants =>
    textChunks locale.tag ++ Message.chunks message ++ Message.variantChunks variants

end

/-- The chunks of messages behind their number. -/
def bodyChunks (messages : List Message) : List Chunk :=
  countChunk messages.length :: messages.flatMap Message.chunks

/-- The body of a pack. -/
def packBody (messages : List Message) : List UInt8 := packedBytes (bodyChunks messages)

end Phrasebook
