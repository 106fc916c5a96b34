import Phrasebook.Template.Compile

/-!
# Errors of rendering

An error has a cause and collects, on its way out, the parameter, code, locale and template it
belongs to. The report names what is known and ends with the wording of the cause.
-/

namespace Phrasebook

/-- Why a message can not be rendered. -/
inductive RenderCause where
  /-- A parameter that the message needs is not supplied. -/
  | missingParameter (name : String)
  /-- A string that is used as a template is none. -/
  | nestedTemplate (error : TemplateError)
  /-- A formatter gives up for a reason of its own. -/
  | formatterFailed (formatter reason : String)
deriving DecidableEq, Repr

namespace RenderCause

/-- The wording of a cause. -/
def message : RenderCause → String
  | missingParameter name => s!"parameter '{name}' is not available"
  | nestedTemplate error => s!"nested template is invalid: {error.message}"
  | formatterFailed formatter reason => s!"formatter '{formatter}' failed: {reason}"

/-- Tells whether the cause is a mistake in a template or its parameters, not in a formatter. -/
def isDeveloperError : RenderCause → Bool
  | formatterFailed _ _ => false
  | _ => true

end RenderCause

/-- A cause with what is known about its place. -/
structure RenderError where
  /-- What is wrong. -/
  cause : RenderCause
  /-- The code of the message. -/
  code : Option String := none
  /-- The template that is rendered. -/
  template : Option String := none
  /-- The locale of the variant. -/
  locale : Option Locale := none
  /-- The innermost parameter. -/
  parameter : Option String := none
deriving DecidableEq, Repr

namespace RenderError

/-- The error with a code. -/
def withCode (code : String) (e : RenderError) : RenderError := { e with code := some code }

/-- The error with a template. -/
def withTemplate (template : String) (e : RenderError) : RenderError :=
  { e with template := some template }

/-- The error with a locale. -/
def withLocale (locale : Locale) (e : RenderError) : RenderError :=
  { e with locale := some locale }

/-- The error with a parameter, unless an inner one is known. -/
def withParameter (name : String) (e : RenderError) : RenderError :=
  if e.parameter.isSome then e else { e with parameter := some name }

/-- The clause of the report about a name that may be unknown. -/
def clause (lead : String) : Option String → String
  | some name => s!"{lead} '{name}'"
  | none => ""

/-- What the report says failed. -/
def description (e : RenderError) : String :=
  let codeAlone := e.parameter.isNone && e.template.isNone
  "failed to format" ++
    (if e.code.isNone && e.template.isNone then " message" else "") ++
    clause " parameter" e.parameter ++
    clause (if e.parameter.isSome then " in template" else " template") e.template ++
    clause (if codeAlone then " message with code" else " for message with code") e.code ++
    clause (if e.code.isSome then " and locale" else " for locale")
      (e.locale.map Locale.displayName)

/-- The report: what failed, and the wording of the cause. -/
def message (e : RenderError) : String := s!"{e.description}: {e.cause.message}"

end RenderError

end Phrasebook
