import Phrasebook.Locale
import Phrasebook.Message.Settings
import Phrasebook.Text.Quoted
import Phrasebook.Text.Utf8

/-!
# Errors of unpacking

What is wrong with a pack: its header, its length, a tag without a meaning, a string that is no
text, content that contradicts itself, or a compressed body that can not be restored.
-/

namespace Phrasebook

/-- The name of a comparator in reports. -/
def Comparator.label : Comparator → String
  | .lt => "Lt"
  | .le => "Lte"
  | .eq => "Eq"
  | .ne => "Ne"
  | .gt => "Gt"
  | .ge => "Gte"

/-- A key as it stands in reports. -/
def SettingKey.label : SettingKey → String
  | .bool value => s!"Bool({boolText value})"
  | .empty relation => s!"Empty({relation.label})"
  | .name word => s!"Name({quoteText word})"
  | .null relation => s!"Null({relation.label})"
  | .number relation value => s!"Number({relation.label}, {intText value.toInt})"
  | .string relation text => s!"String({relation.label}, {quoteText text})"

/-- What a tag stands in front of. -/
inductive TagKind where
  /-- A message. -/
  | message
  /-- A part of a message. -/
  | part
  /-- A key of settings. -/
  | key
  /-- A comparator. -/
  | comparator
  /-- A value of settings. -/
  | value
deriving DecidableEq, Repr

/-- The wording of what a tag stands in front of. -/
def TagKind.wording : TagKind → String
  | message => "message"
  | part => "message part"
  | key => "config key"
  | comparator => "comparator"
  | value => "config value"

/-- How the content of a pack contradicts itself. -/
inductive Inconsistency where
  /-- A count below zero. -/
  | negativeCount (count : Int64)
  /-- A string shorter than the empty one. -/
  | negativeLength (length : Int64)
  /-- An integer that does not fit into 64 bits. -/
  | integerOutOfRange
  /-- A string that is needed is absent. -/
  | missing (what : String)
  /-- Messages are nested too deeply. -/
  | tooDeep
  /-- A message of several parts has fewer than two. -/
  | fewParts (count : Nat)
  /-- A locale tag is refused. -/
  | locale (error : LocaleError)
  /-- The message for a locale has a code or variants of its own. -/
  | variantNotPlain (tag : String)
  /-- A localized message without variants. -/
  | noVariants
  /-- The message with a code has another code. -/
  | nestedCode (code : String)
  /-- A key for the second time. -/
  | duplicateKey (key : SettingKey)
  /-- Another number of messages than one. -/
  | messageCount (count : Nat)
deriving DecidableEq, Repr

/-- The wording of a contradiction. -/
def Inconsistency.message : Inconsistency → String
  | negativeCount count => s!"negative count {intText count.toInt}"
  | negativeLength length => s!"negative string length {intText length.toInt}"
  | integerOutOfRange => "integer out of range"
  | missing what => s!"missing {what}"
  | tooDeep => "message nesting too deep"
  | fewParts count => s!"multipart message with {natText count} parts"
  | locale error => error.message
  | variantNotPlain tag => s!"locale variant '{tag}' is not a plain message"
  | noVariants => "message without locale variants"
  | nestedCode code => s!"message code '{code}' wraps another code"
  | duplicateKey key => s!"duplicate config element Some({key.label})"
  | messageCount count => s!"expected 1 message, found {natText count}"

/-- Why a pack is refused. -/
inductive PackError where
  /-- The first bytes are not those of a pack. -/
  | badHeader
  /-- A version of the format that is not known. -/
  | unsupportedVersion (version : Nat)
  /-- The pack ends too early. -/
  | unexpectedEnd
  /-- A tag without a meaning. -/
  | unknownTag (kind : TagKind) (tag : Nat)
  /-- A string is not in UTF-8. -/
  | invalidText (defect : Utf8Defect)
  /-- The content contradicts itself. -/
  | inconsistent (contradiction : Inconsistency)
  /-- The compressed body can not be restored. -/
  | corruptArchive
deriving DecidableEq, Repr

/-- The wording of the error. -/
def PackError.message : PackError → String
  | badHeader => "not a packed message stream"
  | unsupportedVersion version => s!"unsupported pack format version {natText version}"
  | unexpectedEnd => "unexpected end of packed stream"
  | unknownTag kind tag => s!"unknown {kind.wording} tag {natText tag}"
  | invalidText _ => "invalid UTF-8 in packed string"
  | inconsistent contradiction => s!"inconsistent packed data: {contradiction.message}"
  | corruptArchive => "pack i/o error: corrupt gzip stream"

/-- The error with what lies behind it, outermost first. -/
def PackError.chain (e : PackError) : List String :=
  match e with
  | .invalidText defect => [e.message, defect.message]
  | e => [e.message]

end Phrasebook
