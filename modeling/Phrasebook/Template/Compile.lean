import Phrasebook.Message.Source
import Phrasebook.Template.Reading

/-!
# Templates into messages

`parse` makes a message of one template, `parseCoded` one with a code, and `parseLocalized` one with
a variant for each locale. Errors say which template, code and locale they belong to.
-/

namespace Phrasebook

/-- A refused template with what is known about its place in a program. -/
structure TemplateError where
  /-- The source of the template. -/
  input : String
  /-- What is wrong with it. -/
  error : SyntaxError
  /-- The code of the message. -/
  code : Option String := none
  /-- The template that is named in the report. -/
  template : Option String := none
  /-- The locale of the template. -/
  locale : Option Locale := none
deriving DecidableEq, Repr

namespace TemplateError

/-- The error with a code. -/
def withCode (error : TemplateError) (code : String) : TemplateError :=
  { error with code := some code }

/-- The error with a template. -/
def withTemplate (error : TemplateError) (template : String) : TemplateError :=
  { error with template := some template }

/-- The error with a locale. -/
def withLocale (error : TemplateError) (locale : Locale) : TemplateError :=
  { error with locale := some locale }

/-- What the report says failed. -/
def subject (error : TemplateError) : String :=
  match error.template, error.code with
  | some template, some code => s!" template '{template}' for message with code '{code}'"
  | some template, none => s!" template '{template}'"
  | none, some code => s!" message with code '{code}'"
  | none, none => " message"

/-- The part of the report that names the locale. -/
def localeClause (error : TemplateError) : String :=
  match error.locale with
  | some locale =>
    let joiner := if error.code.isSome then "and" else "for"
    s!" {joiner} locale '{locale.displayName}'"
  | none => ""

/-- The report: what failed, and the wording of the cause with an excerpt of the source. -/
def message (error : TemplateError) : String :=
  "failed to parse" ++ error.subject ++ error.localeClause ++ ": " ++
    error.error.displayExcerpt error.input.toList

end TemplateError

namespace Template

/-- The message of a template, or why there is none. -/
def parse? (source : String) : Except SyntaxError Message :=
  match tokenize source with
  | .error e => .error e
  | .ok tokens => (readParts tokens).map Message.ofParts

/-- The message of a template. -/
def parse (source : String) : Except TemplateError Message :=
  match parse? source with
  | .error error => .error { input := source, error }
  | .ok message => .ok message

/-- The message of a template, with a code. -/
def parseCoded (code source : String) : Except TemplateError Message :=
  match parse source with
  | .error e => .error (e.withCode code)
  | .ok message => .ok (.coded code message)

/-- The message of a template for a locale, in a message with a code if one is given. -/
def parseVariant (code : Option String) (locale : Locale) (source : String) :
    Except TemplateError Message :=
  (parse source).mapError fun e =>
    match code with
    | some code => (e.withLocale locale).withCode code
    | none => e.withLocale locale

/-- The messages of localized templates. The first refused template ends the reading. -/
def parseVariants (code : Option String) :
    List (Locale × String) → Except TemplateError (List (Locale × Message))
  | [] => .ok []
  | (locale, source) :: templates => do
    let message ← parseVariant code locale source
    let variants ← parseVariants code templates
    .ok ((locale, message) :: variants)

/-- The message with the given variants; without variants it is empty. -/
def ofVariants (variants : List (Locale × Message)) : Message :=
  if variants.isEmpty then .empty else .localized variants

/-- The message of localized templates, with a code if one is given. -/
def parseLocalized (code : Option String) (templates : List (Locale × String)) :
    Except TemplateError Message :=
  (parseVariants code templates).map fun variants =>
    match code with
    | some code => .coded code (ofVariants variants)
    | none => ofVariants variants

end Template

end Phrasebook
