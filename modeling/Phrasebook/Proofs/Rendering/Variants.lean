import Phrasebook.Proofs.Locale
import Phrasebook.Proofs.Rendering.Message

/-! # The variant for a locale says what the message says

    Rendering takes codes and variants off a message one at a time, and `forLocale` takes off all
    of them. Either way the same variants are selected, for both ask for the same locale. What is
    lost with the codes and variants is only that errors name them on the way out, so results are
    compared without these (`RenderError.unplaced`). -/

namespace Phrasebook

variable {context : Context} {parameters : Parameters}

/-! ### The variant -/

namespace Message

variable {locale : Locale} {message variant : Message} {variants : List (Locale × Message)}

theorem forLocale_of_select (hm : message.withoutCode = .localized variants)
    (h : selectVariant variants locale = some variant) :
    message.forLocale locale = variant.forLocale locale := by
  rw [forLocale]
  split
  · rename_i other ho
    obtain rfl := Message.localized.inj (hm.symm.trans ho)
    split
    · rename_i selected hs
      obtain rfl := Option.some.inj (h.symm.trans hs)
      rfl
    · rename_i hn
      cases h.symm.trans hn
  · rename_i hnot
    exact absurd hm (hnot variants)

theorem forLocale_of_select_none (hm : message.withoutCode = .localized variants)
    (h : selectVariant variants locale = none) : message.forLocale locale = message := by
  rw [forLocale]
  split
  · rename_i other ho
    obtain rfl := Message.localized.inj (hm.symm.trans ho)
    split
    · rename_i selected hs
      cases h.symm.trans hs
    · rfl
  · rename_i hnot
    exact absurd hm (hnot variants)

theorem forLocale_of_not_localized (h : ∀ variants, message.withoutCode ≠ .localized variants) :
    message.forLocale locale = message.withoutCode := by
  rw [forLocale]
  split
  · rename_i variants hm
    exact absurd hm (h variants)
  · rfl

@[simp] theorem withoutCode_withoutCode (message : Message) :
    message.withoutCode.withoutCode = message.withoutCode := by
  induction message using withoutCode.induct with
  | case1 code message ih => rw [withoutCode, ih]
  | case2 message hc =>
    have hself : message.withoutCode = message := by
      rw [withoutCode]
      exact hc
    rw [hself, hself]

/-- The variant for a locale is come to by selecting below codes. It ends the selecting with a
    message that has no variants, or with one that has an empty list of them. -/
theorem forLocale_induction {motive : Message → Message → Prop} (locale : Locale)
    (select : ∀ message variants variant, message.withoutCode = .localized variants →
      selectVariant variants locale = some variant →
      motive variant (variant.forLocale locale) → motive message (variant.forLocale locale))
    (none : ∀ message, message.withoutCode = .localized [] → motive message message)
    (other : ∀ message, (∀ variants, message.withoutCode ≠ .localized variants) →
      motive message message.withoutCode)
    (message : Message) : motive message (message.forLocale locale) := by
  induction message using forLocale.induct locale with
  | case1 message variants hm variant h ih =>
    rw [forLocale_of_select hm h]
    exact select message variants variant hm h ih
  | case2 message variants hm h =>
    rw [forLocale_of_select_none hm h]
    obtain rfl := selectVariant_eq_none_iff.1 h
    exact none message hm
  | case3 message h =>
    rw [forLocale_of_not_localized h]
    exact other message h

/-- The variant for a locale leaves nothing to select. -/
theorem locales_forLocale (locale : Locale) (message : Message) :
    (message.forLocale locale).locales = [] := by
  refine forLocale_induction (motive := fun _ variant => variant.locales = []) locale ?_ ?_ ?_
    message
  · intro _ _ _ _ _ ih
    exact ih
  · intro message hm
    rw [locales, hm]
    rfl
  · intro message h
    rw [locales, withoutCode_withoutCode]
    split
    · rename_i variants hm
      exact absurd hm (h variants)
    · rfl

end Message

/-! ### Results without places -/

/-- The error without the code and the locale that it collected on its way out. -/
def RenderError.unplaced (e : RenderError) : RenderError := { e with code := none, locale := none }

/-- A result whose error does not tell code and locale. -/
def unplaced (r : Except RenderError Fragment) : Except RenderError Fragment :=
  r.mapError RenderError.unplaced

@[simp] theorem unplaced_withCode (r : Except RenderError Fragment) (code : String) :
    unplaced (r.mapError (·.withCode code)) = unplaced r := by
  cases r <;> rfl

@[simp] theorem unplaced_withLocale (r : Except RenderError Fragment) (locale : Locale) :
    unplaced (r.mapError (·.withLocale locale)) = unplaced r := by
  cases r <;> rfl

/-- Results that differ in places only are the same text, or fail alike. -/
theorem cases_of_unplaced_eq {r r' : Except RenderError Fragment} (h : unplaced r = unplaced r') :
    (∃ fragment, r = .ok fragment ∧ r' = .ok fragment) ∨
      ∃ e e', r = .error e ∧ r' = .error e' ∧ e.cause = e'.cause ∧ e.parameter = e'.parameter := by
  cases r with
  | ok fragment =>
    cases r' with
    | ok fragment' =>
      obtain rfl : fragment = fragment' := Except.ok.inj h
      exact .inl ⟨fragment, rfl, rfl⟩
    | error e' => cases h
  | error e =>
    cases r' with
    | ok fragment' => cases h
    | error e' =>
      have he : e.unplaced = e'.unplaced := Except.error.inj h
      have hcause := congrArg RenderError.cause he
      have hparameter := congrArg RenderError.parameter he
      exact .inr ⟨e, e', rfl, rfl, hcause, hparameter⟩

/-! ### Rendering -/

theorem unplaced_renderMessage_withoutCode (message : Message) :
    unplaced (renderMessage context parameters message.withoutCode) =
      unplaced (renderMessage context parameters message) := by
  induction message using Message.withoutCode.induct with
  | case1 code message ih =>
    rw [Message.withoutCode, renderMessage_coded, unplaced_withCode]
    exact ih
  | case2 message hc =>
    rw [Message.withoutCode]
    exact hc

theorem unplaced_renderMessage_forLocale (message : Message) :
    unplaced (renderMessage context parameters
        (message.forLocale (context.localeFor parameters))) =
      unplaced (renderMessage context parameters message) := by
  refine Message.forLocale_induction (motive := fun message variant =>
    unplaced (renderMessage context parameters variant) =
      unplaced (renderMessage context parameters message)) (context.localeFor parameters) ?_ ?_ ?_
    message
  · intro message variants variant hm h ih
    calc unplaced (renderMessage context parameters (variant.forLocale _))
        = unplaced (renderMessage context parameters variant) := ih
      _ = unplaced (renderMessage context parameters (.localized variants)) := by
        rw [renderMessage_of_select h, unplaced_withLocale]
      _ = unplaced (renderMessage context parameters message) := by
        rw [← hm, unplaced_renderMessage_withoutCode]
  · intro message _
    rfl
  · intro message _
    exact unplaced_renderMessage_withoutCode message

/-- Rendering the variant for the locale gives the same text as rendering the message, with the same
    spaces around it, or both fail for the same cause at the same parameter; and the variant leaves
    nothing to select. -/
theorem renderMessage_forLocale (context : Context) (parameters : Parameters) (message : Message) :
    let variant := message.forLocale (context.localeFor parameters)
    variant.locales = [] ∧
    ((∃ fragment, renderMessage context parameters variant = .ok fragment ∧
        renderMessage context parameters message = .ok fragment) ∨
      ∃ e e', renderMessage context parameters variant = .error e ∧
        renderMessage context parameters message = .error e' ∧
        e.cause = e'.cause ∧ e.parameter = e'.parameter) := by
  intro variant
  exact ⟨Message.locales_forLocale _ message,
    cases_of_unplaced_eq (unplaced_renderMessage_forLocale message)⟩

end Phrasebook
