import Phrasebook.Proofs.Rendering.Dispatch
import Phrasebook.Rendering.Message

/-! # Rendering messages

    What rendering a message goes back to: a selected variant, the message behind a code, or, for
    the parts of a message, the messages that the settings of its placeholders are read as. -/

namespace Phrasebook

variable {context : Context} {parameters : Parameters}

/-! ### One step -/

/-- Renders what a value in settings is read as. -/
def renderNested (context : Context) (parameters : Parameters) (value : SettingValue) :
    Except RenderError Fragment :=
  match value.toMessage with
  | .ok inner => renderMessage context parameters inner
  | .error e => .error { cause := .nestedTemplate e }

/-- Renders a part. -/
def renderPart (context : Context) (parameters : Parameters) : Part → Except RenderError Fragment
  | .literal text => .ok (renderLiteral text)
  | .placeholder place =>
    renderPlaceholder context parameters place fun value _ => renderNested context parameters value

/-- The value of a parameter fails to be there only if it is missing in a strict context. -/
theorem Context.valueOf_eq_error_iff {name : String} {e : RenderError} :
    context.valueOf parameters name = .error e ↔
      context.strict = true ∧ parameters.get? name = none ∧
        e = { cause := .missingParameter name } := by
  unfold Context.valueOf
  cases parameters.get? name with
  | some value => simp
  | none => cases context.strict <;> simp [eq_comm]

theorem Context.valueOf_of_missing {name : String} (hstrict : context.strict = true)
    (habsent : parameters.get? name = none) :
    context.valueOf parameters name = .error { cause := .missingParameter name } :=
  valueOf_eq_error_iff.2 ⟨hstrict, habsent, rfl⟩

/-- A placeholder gives what formatting does. Its flags are added to a result, and the name of its
    parameter to an error. -/
theorem renderPlaceholder_eq (place : Placeholder) (nested : NestedRenderer place.settings) :
    renderPlaceholder context parameters place nested =
      ((context.valueOf parameters place.name >>=
        formatValue ⟨context, parameters, place.settings⟩ nested place.format).map
          (·.withSpaces place.spaceBefore place.spaceAfter)).mapError
            (·.withParameter place.name) := by
  unfold renderPlaceholder
  dsimp only
  cases context.valueOf parameters place.name >>=
    formatValue ⟨context, parameters, place.settings⟩ nested place.format <;> rfl

/-- An error of the formatter is one of the placeholder. -/
theorem renderPlaceholder_of_error {place : Placeholder} {nested : NestedRenderer place.settings}
    {e : RenderError} (h : (context.valueOf parameters place.name >>=
      formatValue ⟨context, parameters, place.settings⟩ nested place.format) = .error e) :
    renderPlaceholder context parameters place nested = .error (e.withParameter place.name) := by
  rw [renderPlaceholder_eq, h]
  rfl

/-- What rendering a placeholder comes down to where its parameter has a value. -/
theorem renderPlaceholder_eq_ok_iff (place : Placeholder) {nested : NestedRenderer place.settings}
    {value : Value} {result : Fragment} (hv : context.valueOf parameters place.name = .ok value) :
    renderPlaceholder context parameters place nested = .ok result ↔
      ∃ formatted,
        formatValue ⟨context, parameters, place.settings⟩ nested place.format value = .ok formatted ∧
          result = formatted.withSpaces place.spaceBefore place.spaceAfter := by
  rw [renderPlaceholder_eq, hv]
  show ((formatValue ⟨context, parameters, place.settings⟩ nested place.format value).map
    _).mapError _ = _ ↔ _
  constructor
  · intro h
    obtain ⟨formatted, hf, rfl⟩ := exists_of_map_eq_ok (eq_ok_of_mapError_eq_ok h)
    exact ⟨formatted, hf, rfl⟩
  · rintro ⟨formatted, hf, rfl⟩
    rw [hf]
    rfl

theorem renderMessage_of_select {variants : List (Locale × Message)} {variant : Message}
    (h : selectVariant variants (context.localeFor parameters) = some variant) :
    renderMessage context parameters (.localized variants) =
      (renderMessage context parameters variant).mapError
        (·.withLocale (context.localeFor parameters)) := by
  rw [renderMessage]
  split
  · rename_i other ho
    obtain rfl := Option.some.inj (h.symm.trans ho)
    rfl
  · rename_i hn
    cases h.symm.trans hn

theorem renderMessage_of_select_none {variants : List (Locale × Message)}
    (h : selectVariant variants (context.localeFor parameters) = none) :
    renderMessage context parameters (.localized variants) = .ok .empty := by
  rw [renderMessage]
  split
  · rename_i other ho
    cases h.symm.trans ho
  · rfl

theorem renderMessage_coded (code : String) (message : Message) :
    renderMessage context parameters (.coded code message) =
      (renderMessage context parameters message).mapError (·.withCode code) := by
  rw [renderMessage]

/-- A template that can be read is rendered like its message, and is named in errors. -/
theorem renderTemplate_of_parse {source : String} {message : Message}
    (h : Template.parse source = .ok message) :
    renderTemplate context source parameters =
      (render context message parameters).mapError fun e => .rendering (e.withTemplate source) := by
  simp only [renderTemplate, h]
  cases render context message parameters <;> rfl

/-- The shapes that rendering tells apart. -/
theorem Message.cases_rendering {motive : Message → Prop}
    (localized : ∀ variants, motive (.localized variants))
    (coded : ∀ code inner, motive (.coded code inner))
    (parts : ∀ message, (∀ variants, message ≠ .localized variants) →
      (∀ code inner, message ≠ .coded code inner) → motive message)
    (message : Message) : motive message := by
  cases message with
  | localized variants => exact localized variants
  | coded code inner => exact coded code inner
  | empty | single | multiple =>
    refine parts _ ?_ ?_
    · intro variants h
      cases h
    · intro code inner h
      cases h

/-- A message without variants and code is rendered part by part. -/
theorem renderMessage_parts {message : Message} (hl : ∀ variants, message ≠ .localized variants)
    (hc : ∀ code inner, message ≠ .coded code inner) :
    renderMessage context parameters message =
      (message.parts.mapM (renderPart context parameters)).map (joinParts message) := by
  rw [renderMessage]
  · rw [List.mapM_subtype, List.unattach_attach]
    · cases message.parts.mapM (renderPart context parameters) <;> rfl
    · intro part hp
      cases part with
      | literal text => rfl
      | placeholder place =>
        refine congrArg (renderPlaceholder context parameters place) ?_
        funext value hv
        unfold renderNested
        split
        · rename_i inner hm
          rw [hm]
        · rename_i e hm
          rw [hm]
  · exact hl
  · exact hc

/-- Parameters of one locale render a message alike if they do so with the variant that is selected,
    with the message behind a code, and with every placeholder behind parts that are rendered. -/
theorem renderMessage_eq_of_steps {p q : Parameters} {message : Message} (hl : p.locale = q.locale)
    (hvariant : ∀ variants variant, message = .localized variants →
      selectVariant variants (context.localeFor p) = some variant →
      renderMessage context p variant = renderMessage context q variant)
    (hcoded : ∀ code inner, message = .coded code inner →
      renderMessage context p inner = renderMessage context q inner)
    (hplace : ∀ front place back, message.parts = front ++ .placeholder place :: back →
      (∀ part ∈ front, ∃ fragment, renderPart context p part = .ok fragment) →
      renderPart context p (.placeholder place) = renderPart context q (.placeholder place)) :
    renderMessage context p message = renderMessage context q message := by
  -- variants are selected by the locale, which both sides share
  have hlocale : context.localeFor p = context.localeFor q := Context.localeFor_congr hl
  cases message using Message.cases_rendering with
  | localized variants =>
    cases hs : selectVariant variants (context.localeFor p) with
    | none => rw [renderMessage_of_select_none hs, renderMessage_of_select_none (hlocale ▸ hs)]
    | some variant =>
      rw [renderMessage_of_select hs, renderMessage_of_select (hlocale ▸ hs),
        hvariant variants variant rfl hs, hlocale]
  | coded code inner =>
    rw [renderMessage_coded, renderMessage_coded, hcoded code inner rfl]
  | parts message hno hno' =>
    have hparts : message.parts.mapM (renderPart context p) =
        message.parts.mapM (renderPart context q) := by
      apply mapM_congr_of_ok
      intro front part back hsplit hfront
      cases part with
      | literal text => rfl
      | placeholder place => exact hplace front place back hsplit hfront
    rw [renderMessage_parts hno hno', renderMessage_parts hno hno', hparts]

end Phrasebook
