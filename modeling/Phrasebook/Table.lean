import Phrasebook.Bundle
import Phrasebook.Entries
import Phrasebook.Json.Reading

/-!
# Tables of messages

A table is a JSON object of codes, each with an object of locale tags and templates. The empty tag is
the root locale.
-/

namespace Phrasebook

/-- Why a table is refused. -/
inductive TableError where
  /-- The source is no JSON document of the expected shape. -/
  | malformed
  /-- A code without templates. -/
  | noTemplates (code : String)
  /-- A refused locale tag. -/
  | locale (code : String) (error : LocaleError)
deriving DecidableEq, Repr

/-- The error with what lies behind it, outermost first. -/
def TableError.chain : TableError → List String
  | malformed => ["malformed message table"]
  | noTemplates code => [s!"message '{code}' has no templates"]
  | locale code error => [s!"message '{code}'", error.message]

namespace Table

/-- Tags and templates of a code, the last template of a tag counting. -/
def readTemplates? (value : JsonValue) : Option (List (String × String)) := do
  let members ← value.members?
  let templates ← members.mapM fun (tag, template) => template.text?.map fun text => (tag, text)
  return lastEntries templates

/-- Codes with their tags and templates. -/
def readCodes? (source : String) : Option (List (String × List (String × String))) := do
  let document ← JsonValue.read? source
  let members ← document.members?
  let codes ← members.mapM fun (code, value) => (readTemplates? value).map fun ts => (code, ts)
  return lastEntries codes

/-- The rows of a code. -/
def rowsOf (code : String) (templates : List (String × String)) :
    Except TableError (List TableRow) :=
  if templates.isEmpty then .error (.noTemplates code)
  else
    templates.mapM fun (tag, template) =>
      match Locale.parse tag with
      | .ok locale => .ok ⟨code, locale, template⟩
      | .error e => .error (.locale code e)

/-- Reads the rows of a table in order. -/
def parse (source : String) : Except TableError (List TableRow) :=
  match readCodes? source with
  | none => .error .malformed
  | some codes => (codes.mapM fun (code, templates) => rowsOf code templates).map List.flatten

/-- The refused templates of a table. -/
def check (rows : List TableRow) : List TemplateError :=
  rows.filterMap fun row =>
    match Template.parseCoded row.code row.template with
    | .ok _ => none
    | .error e => some (e.withLocale row.locale)

end Table

end Phrasebook
