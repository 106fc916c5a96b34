import Phrasebook.Rendering.Dispatch
import Phrasebook.Template.Nesting

/-!
# Rendering a message

Parts are rendered in order and joined. A placeholder formats the value of its parameter; strings
that its formatter selects are read as templates and rendered with the same parameters. Their
messages rank lower (`Message.rank`), so rendering ends. On the way out errors learn the parameter,
the locale and the code they belong to.
-/

namespace Phrasebook

/-- The value of a parameter. In a strict context it has to be supplied, else null stands in. -/
def Context.valueOf (context : Context) (parameters : Parameters) (name : String) :
    Except RenderError Value :=
  match parameters.get? name with
  | some value => .ok value
  | none =>
    if context.strict then .error { cause := .missingParameter name } else .ok .null

/-- Renders a placeholder, given how messages in its settings are rendered. -/
def renderPlaceholder (context : Context) (parameters : Parameters) (place : Placeholder)
    (nested : NestedRenderer place.settings) : Except RenderError Fragment :=
  let rendered := do
    let value ← context.valueOf parameters place.name
    formatValue ⟨context, parameters, place.settings⟩ nested place.format value
  match rendered with
  | .ok fragment => .ok (fragment.withSpaces place.spaceBefore place.spaceAfter)
  | .error e => .error (e.withParameter place.name)

/-- Renders literal text. -/
def renderLiteral (text : Literal) : Fragment := ⟨text.text, text.spaceBefore, text.spaceAfter⟩

/-- Joins rendered parts. A single part is not joined with anything. -/
def joinParts : Message → List Fragment → Fragment
  | .multiple _, fragments => (Joiner.addAll {} fragments).toSpaced
  | _, fragments => fragments.headD .empty

/-- Renders a message, keeping the spaces around it as flags. -/
def renderMessage (context : Context) (parameters : Parameters) :
    Message → Except RenderError Fragment
  | .localized variants =>
    let locale := context.localeFor parameters
    match _h : selectVariant variants locale with
    | some variant => (renderMessage context parameters variant).mapError (·.withLocale locale)
    | none => .ok .empty
  | .coded code message => (renderMessage context parameters message).mapError (·.withCode code)
  | message => do
    let fragments ← message.parts.attach.mapM fun
      | ⟨.literal text, _⟩ => .ok (renderLiteral text)
      | ⟨.placeholder place, _hp⟩ =>
        renderPlaceholder context parameters place fun value _hv =>
          match _hm : value.toMessage with
          | .ok inner => renderMessage context parameters inner
          | .error e => .error { cause := .nestedTemplate e }
    .ok (joinParts message fragments)
termination_by message => message.rank
decreasing_by
  · obtain ⟨l, hl⟩ := mem_of_selectVariant _h
    exact Message.rank_lt_of_mem_localized hl
  · exact Message.rank_lt_coded _ _
  · exact Nat.lt_of_le_of_lt (SettingValue.rank_le_of_toMessage _hm)
      (SettingValue.rank_lt_of_mem _hp _hv)

/-- The text of a message without the spaces around it. -/
def render (context : Context) (message : Message) (parameters : Parameters) :
    Except RenderError String :=
  (renderMessage context parameters message).map Fragment.text

/-- Why a template can not be rendered. -/
inductive TemplateRenderError where
  /-- It is no template. -/
  | template (error : TemplateError)
  /-- Its message can not be rendered. -/
  | rendering (error : RenderError)
deriving DecidableEq, Repr

/-- Reads and renders a template. -/
def renderTemplate (context : Context) (source : String) (parameters : Parameters) :
    Except TemplateRenderError String :=
  match Template.parse source with
  | .error e => .error (.template e)
  | .ok message =>
    match render context message parameters with
    | .error e => .error (.rendering (e.withTemplate source))
    | .ok text => .ok text

end Phrasebook
