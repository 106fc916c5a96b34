import Phrasebook.Comparator
import Phrasebook.Template.Location

/-!
# Syntax errors of templates

A syntax error is a cause and the span of the offending input. Its wording is a function of the
cause; the display adds the place or an excerpt of the source.
-/

namespace Phrasebook

/-- Why a template is refused. -/
inductive SyntaxCause where
  /-- The source ends behind a backslash. -/
  | incompleteEscape
  /-- A backslash and `u` without four hexadecimal digits of a character. -/
  | invalidUnicodeEscape
  /-- The source ends inside a placeholder. -/
  | unclosedPlaceholder
  /-- A character that begins no token. -/
  | unexpectedCharacter (c : Char)
  /-- An integer that does not fit into 64 bits. -/
  | numberOutOfRange
  /-- A quote without its partner. -/
  | unclosedQuote
  /-- A token outside of text and placeholders. -/
  | unexpectedToken
  /-- A placeholder that does not begin as one. -/
  | placeholderExpected
  /-- A placeholder without a name. -/
  | missingName
  /-- Something else in the place of the name. -/
  | invalidName
  /-- A placeholder or map that goes on where it has to end. -/
  | closingBraceExpected
  /-- A key without the colon behind it. -/
  | colonExpected
  /-- A key or the default for the second time. -/
  | duplicateElement
  /-- A comparator other than `=` and `<>` in front of `null` or `empty`. -/
  | invalidComparator (comparator : Comparator) (word : String)
  /-- A comparator in front of a name or truth value. -/
  | comparatorNotAllowed
  /-- An entry that begins with no key. -/
  | missingKey
  /-- A colon without a value behind it. -/
  | missingValue
  /-- A quote without text behind it. -/
  | quotedTextExpected
  /-- A cause in the words of the caller. -/
  | other (wording : String)
deriving DecidableEq, Repr

/-- The wording of a cause. -/
def SyntaxCause.message : SyntaxCause → String
  | incompleteEscape => "incomplete escape sequence"
  | invalidUnicodeEscape => "invalid unicode escape"
  | unclosedPlaceholder => "unexpected end of message; missing '\x7d'"
  | unexpectedCharacter c => s!"unexpected character '{c}'"
  | numberOutOfRange => "number out of range"
  | unclosedQuote => "quoted text not properly ended"
  | unexpectedToken => "unexpected token"
  | placeholderExpected => "parameter expected"
  | missingName => "missing parameter name"
  | invalidName => "invalid parameter name"
  | closingBraceExpected => "'\x7d' expected"
  | colonExpected => "':' expected"
  | duplicateElement => "duplicate config element"
  | invalidComparator comparator word => s!"invalid comparator '{comparator.symbol}' for {word}"
  | comparatorNotAllowed => "comparator not allowed here"
  | missingKey => "missing config key"
  | missingValue => "missing config value"
  | quotedTextExpected => "quoted text expected"
  | other wording => wording

/-- A cause with the span of the offending input. -/
structure SyntaxError where
  /-- What is wrong. -/
  cause : SyntaxCause
  /-- Where it is wrong. -/
  span : Span
deriving DecidableEq, Repr

namespace SyntaxError

/-- Characters that the excerpt of a displayed error shows on each side. -/
def excerptLimit : Nat := 40

/-- The wording and the place where the span starts. -/
def display (error : SyntaxError) (source : List Char) : String :=
  s!"{error.cause.message} at {(Location.ofOffset source error.span.start).display}"

/-- The wording and the marked excerpt of the source around the start of the span. -/
def displayExcerpt (error : SyntaxError) (source : List Char) : String :=
  let (before, after) := excerpt source error.span.start excerptLimit
  s!"{error.cause.message} (\"{String.ofList before}[ERROR ->]{String.ofList after}\")"

end SyntaxError

end Phrasebook
