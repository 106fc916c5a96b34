import Phrasebook.Proofs.Rendering.Message

/-! # What rendering comes to

    A message may hold more than rendering it comes to: other variants than the one that is
    selected, parts behind one that fails, entries of settings that are not selected. What is
    formatted depends on an entry if it may change with what becomes of the entry alone
    (`DependsOn`), and where no such entry changes, nothing does (`run_eq_of_dependsOn`). So a
    message is rendered alike with two sets of parameters if it is so with what rendering comes to
    (`renderMessage_eq_of_comesTo`). -/

namespace Phrasebook

section Dependence

variable {settings : Settings SettingValue} {α : Type} {run : NestedRenderer settings → α}
  {first second : NestedRenderer settings} {v : SettingValue}

/-- A run depends on what becomes of a value in the settings. -/
def DependsOn (run : NestedRenderer settings → α) (v : SettingValue) : Prop :=
  ∃ first second : NestedRenderer settings, (∀ u hu, u ≠ v → first u hu = second u hu) ∧
    run first ≠ run second

theorem DependsOn.mem_values (h : DependsOn run v) : v ∈ settings.values := by
  classical
  obtain ⟨first, second, hsame, hrun⟩ := h
  by_cases hv : v ∈ settings.values
  · exact hv
  · have heq : first = second := by
      funext u hu
      apply hsame u hu
      rintro rfl
      exact hv hu
    exact absurd (congrArg run heq) hrun

/-- The renderers may differ at some of the values, as long as the run depends on none of them. -/
theorem run_eq_of_forall_notMem (vs : List SettingValue)
    (hout : ∀ u hu, u ∉ vs → first u hu = second u hu)
    (h : ∀ u hu, DependsOn run u → first u hu = second u hu) : run first = run second := by
  classical
  induction vs generalizing first with
  | nil =>
    have heq : first = second := by
      funext u hu
      exact hout u hu List.not_mem_nil
    rw [heq]
  | cons v vs ih =>
    -- change what becomes of the first value, then of all others
    let between : NestedRenderer settings := fun u hu => if u = v then second u hu else first u hu
    have hbetween : ∀ u hu, u ≠ v → first u hu = between u hu := by
      intro u hu hne
      exact (if_neg hne).symm
    have hchange : run first = run between := by
      by_cases hrun : run first = run between
      · exact hrun
      · have hv : DependsOn run v := ⟨first, between, hbetween, hrun⟩
        have heq : first = between := by
          funext u hu
          by_cases hne : u = v
          · subst hne
            exact (h u hu hv).trans (if_pos rfl).symm
          · exact hbetween u hu hne
        exact congrArg run heq
    rw [hchange]
    apply ih
    · intro u hu hout'
      by_cases hne : u = v
      · exact if_pos hne
      · rw [← hbetween u hu hne]
        exact hout u hu (List.not_mem_cons_of_ne_of_not_mem hne hout')
    · intro u hu hdepends
      by_cases hne : u = v
      · exact if_pos hne
      · rw [← hbetween u hu hne]
        exact h u hu hdepends

/-- A run gives the same with renderers that agree where it depends on them. -/
theorem run_eq_of_dependsOn (h : ∀ u hu, DependsOn run u → first u hu = second u hu) :
    run first = run second :=
  run_eq_of_forall_notMem settings.values (fun _ hu hout => absurd hu hout) h

end Dependence

/-! ### Messages -/

namespace Message

/-- Rendering a message comes to a placeholder: all parts in front of it are rendered. -/
def ComesToPlace (context : Context) (parameters : Parameters) (message : Message)
    (place : Placeholder) : Prop :=
  ∃ front back, message.parts = front ++ .placeholder place :: back ∧
    ∀ part ∈ front, ∃ fragment, renderPart context parameters part = .ok fragment

/-- Rendering a message comes to another one. -/
inductive ComesTo (context : Context) (parameters : Parameters) : Message → Message → Prop
  /-- The variant that is selected. -/
  | variant {variants : List (Locale × Message)} {variant : Message}
      (hs : selectVariant variants (context.localeFor parameters) = some variant) :
      ComesTo context parameters (.localized variants) variant
  /-- The message behind a code. -/
  | coded (code : String) (inner : Message) : ComesTo context parameters (.coded code inner) inner
  /-- What a value in the settings of a placeholder is read as, if what is formatted depends on
      it. -/
  | setting {message inner : Message} {place : Placeholder} {value : Value} {v : SettingValue}
      (hp : message.ComesToPlace context parameters place)
      (hvalue : context.valueOf parameters place.name = .ok value)
      (hv : DependsOn (fun nested =>
        formatValue ⟨context, parameters, place.settings⟩ nested place.format value) v)
      (hr : v.toMessage = .ok inner) : ComesTo context parameters message inner

theorem ComesToPlace.mem_parts {context : Context} {parameters : Parameters} {message : Message}
    {place : Placeholder} (h : message.ComesToPlace context parameters place) :
    .placeholder place ∈ message.parts := by
  obtain ⟨front, back, hsplit, -⟩ := h
  rw [hsplit]
  exact List.mem_append_right front List.mem_cons_self

end Message

variable {context : Context} {p q : Parameters}

/-- Parameters of one locale render a message alike if they do so with the messages that rendering
    comes to, and format alike, given what becomes of the messages in the settings, the values of
    the placeholders that it comes to. -/
theorem renderMessage_eq_of_comesTo {message : Message} (hl : p.locale = q.locale)
    (hinner : ∀ inner, message.ComesTo context p inner →
      renderMessage context p inner = renderMessage context q inner)
    (hplace : ∀ place, message.ComesToPlace context p place →
      (context.valueOf p place.name >>= formatValue ⟨context, p, place.settings⟩
          (fun v _ => renderNested context q v) place.format) =
        context.valueOf q place.name >>= formatValue ⟨context, q, place.settings⟩
          (fun v _ => renderNested context q v) place.format) :
    renderMessage context p message = renderMessage context q message := by
  refine renderMessage_eq_of_steps hl ?_ ?_ ?_
  · rintro variants variant rfl hs
    exact hinner variant (.variant hs)
  · rintro code inner rfl
    exact hinner inner (.coded code inner)
  · intro front place back hsplit hfront
    have hp : message.ComesToPlace context p place := ⟨front, back, hsplit, hfront⟩
    have hnested : (context.valueOf p place.name >>= formatValue ⟨context, p, place.settings⟩
          (fun v _ => renderNested context p v) place.format) =
        context.valueOf p place.name >>= formatValue ⟨context, p, place.settings⟩
          (fun v _ => renderNested context q v) place.format := by
      cases hvalue : context.valueOf p place.name with
      | error e => rfl
      | ok value =>
        let run : NestedRenderer place.settings → Except RenderError Fragment := fun nested =>
          formatValue ⟨context, p, place.settings⟩ nested place.format value
        show run _ = run _
        apply run_eq_of_dependsOn
        intro v hv hdepends
        unfold renderNested
        split
        · rename_i inner hr
          exact hinner inner (.setting hp hvalue hdepends hr)
        · rfl
    show renderPlaceholder context p place _ = renderPlaceholder context q place _
    rw [renderPlaceholder_eq, renderPlaceholder_eq, hnested, hplace place hp]

end Phrasebook
