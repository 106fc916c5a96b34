import Phrasebook.Proofs.Rendering.Message
import Phrasebook.Proofs.Rendering.Stopping
import Phrasebook.Proofs.Template.Nesting

/-! # Which errors rendering has

    With built-in formatters there are two: a parameter that is not supplied, in strict contexts,
    and a string that is no template. Messages where every such string is a template have the first
    one only, and in other contexts none. -/

namespace Phrasebook

variable {context : Context} {parameters : Parameters} {causes : RenderCause → Prop}

theorem RenderError.cause_withParameter (name : String) (e : RenderError) :
    (e.withParameter name).cause = e.cause := by
  unfold withParameter
  split <;> rfl

/-- Errors of a placeholder come from its parameter or from the messages in its settings. -/
theorem FailsOnly.renderPlaceholder {place : Placeholder} {nested : NestedRenderer place.settings}
    (hb : context.registry.AllBuiltin)
    (hmissing : ∀ name, context.strict = true → parameters.get? name = none →
      causes (.missingParameter name))
    (hn : ∀ v (hv : v ∈ place.settings.values), v ∈ place.settings.messageValues →
      FailsOnly (fun e => causes e.cause) (nested v hv)) :
    FailsOnly (fun e => causes e.cause)
      (renderPlaceholder context parameters place nested) := by
  have hvalue : FailsOnly (fun e => causes e.cause) (context.valueOf parameters place.name) := by
    intro e he
    obtain ⟨hstrict, habsent, rfl⟩ := Context.valueOf_eq_error_iff.1 he
    exact hmissing place.name hstrict habsent
  have hrendered := hvalue.bind fun value =>
    @FailsOnly.formatValue _ ⟨context, parameters, place.settings⟩ nested hb hn place.format value
  rw [renderPlaceholder_eq]
  -- the name of the parameter is added to an error, which leaves its cause as it was
  refine (hrendered.map _).mapError fun e he => ?_
  rwa [RenderError.cause_withParameter]

/-- Errors of a message come from its parameters, from strings that are no templates, and from what
    it nests. -/
theorem FailsOnly.renderMessage_of_nests {message : Message} (hb : context.registry.AllBuiltin)
    (hmissing : ∀ name, context.strict = true → parameters.get? name = none →
      causes (.missingParameter name))
    (htemplate : ∀ e, message.Nests (.error e) → causes (.nestedTemplate e))
    (hinner : ∀ inner, message.Nests (.ok inner) →
      FailsOnly (fun e => causes e.cause) (renderMessage context parameters inner)) :
    FailsOnly (fun e => causes e.cause) (renderMessage context parameters message) := by
  cases message using Message.cases_rendering with
  -- only the selected variant is rendered, and only the code is added to its errors
  | localized variants =>
    cases hs : selectVariant variants (context.localeFor parameters) with
    | none =>
      rw [renderMessage_of_select_none hs]
      exact failsOnly_ok _
    | some variant =>
      obtain ⟨locale, hv⟩ := mem_of_selectVariant hs
      rw [renderMessage_of_select hs]
      exact (hinner variant (.variant hv)).mapError fun e he => he
  | coded code inner =>
    rw [renderMessage_coded]
    exact (hinner inner (.coded code inner)).mapError fun e he => he
  | parts message hl hc =>
    rw [renderMessage_parts hl hc]
    refine FailsOnly.map (FailsOnly.mapM fun part hp => ?_) _
    cases part with
    | literal text => exact failsOnly_ok _
    | placeholder place =>
      refine FailsOnly.renderPlaceholder hb hmissing fun v _ hv => ?_
      unfold renderNested
      split
      · rename_i inner hr
        exact hinner inner (.value hp hv hr)
      · rename_i e hr
        exact failsOnly_error (htemplate e (.value hp hv hr))

/-- Well nested messages leave parameters that are not supplied; all messages leave strings that are
    no templates as well. -/
theorem FailsOnly.renderMessage {message : Message} (hb : context.registry.AllBuiltin)
    (hmissing : ∀ name, context.strict = true → parameters.get? name = none →
      causes (.missingParameter name))
    (htemplate : message.WellNested ∨ ∀ e, causes (.nestedTemplate e)) :
    FailsOnly (fun e => causes e.cause) (renderMessage context parameters message) := by
  induction message using Message.nests_induction with
  | step message ih =>
    refine FailsOnly.renderMessage_of_nests hb hmissing ?_ ?_
    · intro e he
      rcases htemplate with hw | ht
      · exact absurd he (hw.not_nests_error e)
      · exact ht e
    · intro inner hi
      refine ih inner hi ?_
      rcases htemplate with hw | ht
      · exact .inl (hw.of_nests hi)
      · exact .inr ht

/-- Well nested messages are rendered, unless the context is strict and a parameter is not supplied.
    No formatter fails, and strings that are no templates are the only errors of other contexts. -/
theorem render_errors_of_allBuiltin (context : Context) (hb : context.registry.AllBuiltin)
    (message : Message) (parameters : Parameters) :
    (message.WellNested →
      (context.strict = false → ∃ text, render context message parameters = .ok text) ∧
      (context.strict = true →
        (∃ text, render context message parameters = .ok text) ∨
        ∃ e name, render context message parameters = .error e ∧
          e.cause = .missingParameter name ∧ parameters.get? name = none)) ∧
    ∀ e, render context message parameters = .error e →
      (∀ formatter reason, e.cause ≠ .formatterFailed formatter reason) ∧
      (context.strict = false → ∃ error, e.cause = .nestedTemplate error) := by
  constructor
  · intro hw
    -- the only errors that are left
    let missing (cause : RenderCause) : Prop :=
      context.strict = true ∧ ∃ name, cause = .missingParameter name ∧ parameters.get? name = none
    have h : FailsOnly (fun e => missing e.cause) (render context message parameters) := by
      refine FailsOnly.map (FailsOnly.renderMessage hb ?_ (.inl hw)) Fragment.text
      intro name hstrict habsent
      exact ⟨hstrict, name, rfl, habsent⟩
    constructor
    · intro hlenient
      refine h.exists_ok fun e he => ?_
      exact absurd (hlenient.symm.trans he.1) Bool.false_ne_true
    · intro hstrict
      cases hr : render context message parameters with
      | ok text => exact .inl ⟨text, rfl⟩
      | error e =>
        obtain ⟨-, name, hcause, habsent⟩ := h e hr
        exact .inr ⟨e, name, rfl, hcause, habsent⟩
  · let known (cause : RenderCause) : Prop :=
      (context.strict = true ∧ ∃ name, cause = .missingParameter name) ∨
        ∃ error, cause = .nestedTemplate error
    have h : FailsOnly (fun e => known e.cause) (render context message parameters) := by
      refine FailsOnly.map (FailsOnly.renderMessage hb ?_ (.inr ?_)) Fragment.text
      · intro name hstrict _
        exact .inl ⟨hstrict, name, rfl⟩
      · intro error
        exact .inr ⟨error, rfl⟩
    intro e hr
    rcases h e hr with ⟨hstrict, name, hcause⟩ | ⟨error, hcause⟩
    · constructor
      · intro formatter reason hf
        cases hcause.symm.trans hf
      · intro hlenient
        exact absurd (hlenient.symm.trans hstrict) Bool.false_ne_true
    · constructor
      · intro formatter reason hf
        cases hcause.symm.trans hf
      · intro _
        exact ⟨error, hcause⟩

/-- The separator of a list is no template, but neither does it become a message. -/
theorem render_errors_of_allBuiltin_separator :
    let settings : Settings SettingValue :=
      ⟨[(.name "list-sep", .string (.ofText "%")), (.null .eq, .message .empty)], none⟩
    let message : Message := .single (.placeholder ⟨"n", none, settings, false, false⟩)
    let strict : Context := { Context.standard with strict := true }
    message.WellNested ∧ (∃ text, render .standard message {} = .ok text) ∧
      ∃ e, render strict message {} = .error e ∧ e.cause = .missingParameter "n" ∧
        ∀ formatter reason, e.cause ≠ .formatterFailed formatter reason := by
  intro settings message strict
  have hvalues : settings.messageValues = [.message .empty] := rfl
  have hempty : Message.empty.WellNested := by
    constructor
    · intro e h
      cases h with
      | value hp => cases hp
    · intro inner h
      cases h with
      | value hp => cases hp
  -- only the message in the settings is nested: a separator is looked up by its name
  have hmessage : ∀ {read}, message.Nests read → read = .ok .empty := by
    intro read h
    change (Message.single (.placeholder ⟨"n", none, settings, false, false⟩)).Nests read at h
    cases h with
    | value hp hv hr =>
      cases List.mem_singleton.1 hp
      rw [hvalues] at hv
      cases List.mem_singleton.1 hv
      exact hr.symm
  have hw : message.WellNested := by
    constructor
    · intro e h
      cases hmessage h
    · intro inner h
      cases hmessage h
      exact hempty
  have hstandard := Registry.allBuiltin_standard
  have hmissing : render strict message {} =
      .error ⟨.missingParameter "n", none, none, none, some "n"⟩ := by
    rw [render, renderMessage_parts (by simp [message]) (by simp [message])]
    rfl
  refine ⟨hw, ((render_errors_of_allBuiltin .standard hstandard message {}).1 hw).1 rfl,
    _, hmissing, rfl, ?_⟩
  exact ((render_errors_of_allBuiltin strict hstandard message {}).2 _ hmissing).1

end Phrasebook
