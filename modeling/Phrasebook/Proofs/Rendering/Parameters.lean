import Phrasebook.Proofs.Rendering.Message
import Phrasebook.Proofs.Template.Names

/-! # Which parameters rendering depends on

    With built-in formatters, rendering looks up the mentioned names and no others. Parameters that
    agree on them, and on the locale, give the same text or the same error. -/

namespace Phrasebook

/-- Parameters agree on a name. Absent agrees with absent only if the context is strict, otherwise
    with null as well. -/
def Parameters.AgreeOn (strict : Bool) (p q : Parameters) (name : String) : Prop :=
  if strict then p.get? name = q.get? name
  else (p.get? name).getD .null = (q.get? name).getD .null

variable {context : Context} {p q : Parameters}

theorem Context.valueOf_of_lenient (h : context.strict = false) (p : Parameters) (name : String) :
    context.valueOf p name = .ok ((p.get? name).getD .null) := by
  unfold valueOf
  cases p.get? name with
  | some value => rfl
  | none =>
    dsimp only
    rw [h]
    rfl

/-- Placeholders tell parameters apart only where these disagree. -/
theorem Context.valueOf_congr {name : String} (h : p.AgreeOn context.strict q name) :
    context.valueOf p name = context.valueOf q name := by
  unfold Parameters.AgreeOn at h
  by_cases hstrict : context.strict = true
  · rw [if_pos hstrict] at h
    unfold valueOf
    rw [h]
  · rw [if_neg hstrict] at h
    rw [Bool.not_eq_true] at hstrict
    rw [valueOf_of_lenient hstrict, valueOf_of_lenient hstrict, h]

/-- Placeholders are rendered alike if their values are formatted alike. -/
theorem renderPlaceholder_eq_of_bind {place : Placeholder}
    {nestedP nestedQ : NestedRenderer place.settings}
    (h : (context.valueOf p place.name >>=
        formatValue ⟨context, p, place.settings⟩ nestedP place.format) =
      context.valueOf q place.name >>=
        formatValue ⟨context, q, place.settings⟩ nestedQ place.format) :
    renderPlaceholder context p place nestedP = renderPlaceholder context q place nestedQ := by
  rw [renderPlaceholder_eq, renderPlaceholder_eq, h]

theorem renderPlaceholder_congr {place : Placeholder}
    {nestedP nestedQ : NestedRenderer place.settings} (hb : context.registry.AllBuiltin)
    (hl : p.locale = q.locale) (hv : p.AgreeOn context.strict q place.name)
    (hn : ∀ v (hv : v ∈ place.settings.values), v ∈ place.settings.messageValues →
      nestedP v hv = nestedQ v hv) :
    renderPlaceholder context p place nestedP = renderPlaceholder context q place nestedQ := by
  refine renderPlaceholder_eq_of_bind ?_
  rw [Context.valueOf_congr hv, funext (formatValue_congr hb hl hn place.format)]

/-- Parameters of one locale render a message alike if they do so with what it nests and, given
    that, with its placeholders. -/
theorem renderMessage_eq_of_parts {message : Message} (hl : p.locale = q.locale)
    (hinner : ∀ inner, message.Nests (.ok inner) →
      renderMessage context p inner = renderMessage context q inner)
    (hplace : ∀ place, .placeholder place ∈ message.parts →
      (∀ value ∈ place.settings.messageValues,
        renderNested context p value = renderNested context q value) →
      renderPart context p (.placeholder place) = renderPart context q (.placeholder place)) :
    renderMessage context p message = renderMessage context q message := by
  refine renderMessage_eq_of_steps hl ?_ ?_ ?_
  · rintro variants variant rfl hs
    obtain ⟨locale, hv⟩ := mem_of_selectVariant hs
    exact hinner variant (.variant hv)
  · rintro code inner rfl
    exact hinner inner (.coded code inner)
  · intro front place back hsplit _
    have hp : .placeholder place ∈ message.parts := by
      rw [hsplit]
      exact List.mem_append_right front List.mem_cons_self
    refine hplace place hp fun value hv => ?_
    unfold renderNested
    split
    · rename_i inner hr
      exact hinner inner (.value hp hv hr)
    · rfl

/-- Rendering goes on to the same messages, and to the same values, if the parameters agree on what
    is mentioned. -/
theorem renderMessage_congr {message : Message} (hb : context.registry.AllBuiltin)
    (hl : p.locale = q.locale) (h : ∀ name ∈ message.mentioned, p.AgreeOn context.strict q name) :
    renderMessage context p message = renderMessage context q message := by
  induction message using Message.nests_induction with
  | step message ih =>
    refine renderMessage_eq_of_parts hl ?_ ?_
    · intro inner hi
      exact ih inner hi fun name hname => h name (hi.mentioned_subset hname)
    · intro place hp hnested
      exact renderPlaceholder_congr hb hl (h _ (Message.name_mem_mentioned hp)) fun value _ hv =>
        hnested value hv

/-- Parameters with one locale that agree on the mentioned names give the same text or the same
    error. -/
theorem render_eq_of_agreeOn (context : Context) (hb : context.registry.AllBuiltin)
    (message : Message) (p q : Parameters) (hl : p.locale = q.locale)
    (h : ∀ name ∈ message.mentionedNames, p.AgreeOn context.strict q name) :
    render context message p = render context message q := by
  have hm := renderMessage_congr hb hl fun name hname => h name (mem_sortNames.2 hname)
  unfold render
  rw [hm]

/-- Null is as good as absent, and what is not mentioned does not matter. -/
theorem render_eq_of_agreeOn_null :
    let message : Message := .single (.placeholder ⟨"n", none, {}, false, false⟩)
    let p : Parameters := ⟨.root, [("n", .null), ("m", .bool true)]⟩
    (∀ name ∈ message.mentionedNames, p.AgreeOn Context.standard.strict {} name) ∧
      render .standard message p = render .standard message {} := by
  intro message p
  have hmentioned : message.mentioned = ["n"] := by
    rw [Message.mentioned]
    · rfl
    · simp [message]
    · simp [message]
  have h : ∀ name ∈ message.mentionedNames, p.AgreeOn Context.standard.strict {} name := by
    intro name hname
    have hn := mem_sortNames.1 hname
    rw [hmentioned] at hn
    obtain rfl := List.mem_singleton.1 hn
    rfl
  exact ⟨h, render_eq_of_agreeOn .standard Registry.allBuiltin_standard message p {} rfl h⟩

end Phrasebook
