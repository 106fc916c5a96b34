import Phrasebook.Proofs.Formatter.Registry
import Phrasebook.Proofs.Formatter.Resolution
import Phrasebook.Proofs.Message.Settings
import Phrasebook.Proofs.Results
import Phrasebook.Rendering.Dispatch

/-! # Formatting with built-in formatters

    A formatter goes back to formatters in two ways: it spends its format, or it goes into the
    value. So what holds of all formatters that are built in, as long as it holds of what they go
    back to, holds of formatting. One such fact follows: the parameters matter by their locale and
    by what becomes of the messages in the settings. -/

namespace Phrasebook

/-! ### What formatting goes back to -/

/-- A value is right inside another one. -/
inductive Value.Inside : Value → Value → Prop
  /-- An element of a list. -/
  | element {values : List Value} {inner : Value} (h : inner ∈ values) : Inside inner (.list values)
  /-- A key of a map. -/
  | key {entries : List (Value × Value)} {entry : Value × Value} (h : entry ∈ entries) :
      Inside entry.1 (.map entries)
  /-- A value of a map. -/
  | value {entries : List (Value × Value)} {entry : Value × Value} (h : entry ∈ entries) :
      Inside entry.2 (.map entries)
  /-- A value that is not absent. -/
  | present (inner : Value) : Inside inner (.optional (some inner))
  /-- A value that is supplied. -/
  | supplied (inner : Value) : Inside inner (.supplier inner)

theorem Value.Inside.sizeOf_lt {inner value : Value} (h : inner.Inside value) :
    sizeOf inner < sizeOf value := by
  cases h with
  | element h =>
    have := List.sizeOf_lt_of_mem h
    simp only [Value.list.sizeOf_spec]
    omega
  | @key entries entry h | @value entries entry h =>
    have := List.sizeOf_lt_of_mem h
    have : sizeOf entry = 1 + sizeOf entry.1 + sizeOf entry.2 := rfl
    simp only [Value.map.sizeOf_spec]
    omega
  | present inner =>
    simp only [Value.optional.sizeOf_spec, Option.some.sizeOf_spec]
    omega
  | supplied inner =>
    simp only [Value.supplier.sizeOf_spec]
    omega

/-- What holds of a format and a value as long as it holds without the format and inside the value,
    holds of all of them. -/
theorem formatValue_induction {motive : Option String → Value → Prop}
    (step : ∀ format value, (format.isSome → ∀ other, motive none other) →
      (∀ inner, inner.Inside value → motive none inner ∧ motive format inner) → motive format value)
    (format : Option String) (value : Value) : motive format value := by
  -- the format is spent once at most, so values without one come first
  have hnone (value : Value) : motive none value := by
    induction hn : sizeOf value using Nat.strongRecOn generalizing value with
    | ind n ih =>
      subst hn
      refine step none value (fun h => by cases h) fun inner hi => ?_
      have h := ih _ hi.sizeOf_lt inner rfl
      exact ⟨h, h⟩
  induction hn : sizeOf value using Nat.strongRecOn generalizing value with
  | ind n ih =>
    subst hn
    refine step format value (fun _ => hnone) fun inner hi => ?_
    exact ⟨hnone inner, ih _ hi.sizeOf_lt inner rfl⟩

/-! ### What is selected -/

/-- No formatter asks for names, so it selects one of these values. -/
theorem Settings.mem_messageValues_of_select {V : Type} {settings : Settings V}
    {kinds : List KeyKind} {otherwise : Bool} {strength : SettingKey → Strength} {v : V}
    (hk : .name ∉ kinds) (h : settings.select kinds otherwise strength = some v) :
    v ∈ settings.messageValues := by
  unfold Settings.select at h
  simp only at h
  split at h
  · rename_i value hs
    obtain rfl := Option.some.inj h
    rcases mem_of_strongest hs with hs | hs
    · cases hs
    · obtain ⟨entry, he, rfl⟩ := List.mem_map.1 hs
      obtain ⟨he, hkind⟩ := List.mem_filter.1 he
      have hname : entry.1.kind ≠ .name := by
        intro hn
        rw [hn] at hkind
        exact hk (of_decide_eq_true hkind)
      refine List.mem_append_left _ (List.mem_map_of_mem (List.mem_filter.2 ⟨he, ?_⟩))
      exact decide_eq_true hname
  · split at h
    · exact List.mem_append_right _ (Option.mem_toList.2 h)
    · cases h

/-- Where no entry is selected, the alternative is taken. -/
theorem FormatCall.selectOr_of_select_none {call : FormatCall}
    {nested : NestedRenderer call.settings} {value : Value} {kinds : List KeyKind}
    {otherwise : Bool} {alternative : Except RenderError Fragment}
    (h : call.select value kinds otherwise = none) :
    call.selectOr nested value kinds otherwise alternative = alternative := by
  unfold selectOr
  split
  · rename_i chosen hs
    cases h.symm.trans hs
  · rfl

/-- A text for which no entry is selected is formatted as it is. -/
theorem formatValue_string {call : FormatCall} {text : String} (hcontext : call.context = .standard)
    (hempty : call.select (.string text) [.empty, .null] false = none)
    (hstring : call.select (.string text) [.string] true = none)
    (nested : NestedRenderer call.settings) :
    formatValue call nested none (.string text) = .ok (.unspaced text) := by
  have hresolve : Context.standard.registry.resolve none (Value.string text).typeName =
      .builtin .string := Registry.resolve_standard (.string text) (by simp)
  rw [formatValue.eq_def, hcontext, hresolve]
  exact (FormatCall.selectOr_of_select_none hempty).trans
    (FormatCall.selectOr_of_select_none hstring)

/-! ### Parameters matter by their locale -/

section Locale

variable {context : Context} {p q : Parameters} {settings : Settings SettingValue}
  {nestedP nestedQ : NestedRenderer settings}

theorem Context.localeFor_congr (hl : p.locale = q.locale) :
    context.localeFor p = context.localeFor q := by
  unfold localeFor
  rw [hl]

theorem FormatCall.select_congr (hl : p.locale = q.locale) (value : Value) (kinds : List KeyKind)
    (otherwise : Bool) :
    select ⟨context, p, settings⟩ value kinds otherwise =
      select ⟨context, q, settings⟩ value kinds otherwise := by
  unfold select Context.matching
  dsimp only
  rw [Context.localeFor_congr hl]

/-- Where the same entry is selected for two values, the same is rendered for them. -/
theorem FormatCall.selectOr_eq_of_select {value other : Value} {kinds : List KeyKind}
    {otherwise : Bool} {first second : Except RenderError Fragment}
    (hs : select ⟨context, p, settings⟩ value kinds otherwise =
      select ⟨context, q, settings⟩ other kinds otherwise)
    (hn : ∀ v (hv : v ∈ settings.values), v ∈ settings.messageValues → nestedP v hv = nestedQ v hv)
    (hk : .name ∉ kinds) (ha : first = second) :
    selectOr ⟨context, p, settings⟩ nestedP value kinds otherwise first =
      selectOr ⟨context, q, settings⟩ nestedQ other kinds otherwise second := by
  unfold selectOr
  -- both select the same value, or both take the alternative
  split
  · rename_i v hv
    split
    · rename_i w hw
      obtain rfl := Option.some.inj (hv.symm.trans (hs.trans hw))
      exact hn v _ (Settings.mem_messageValues_of_select hk hv)
    · rename_i hw
      cases hv.symm.trans (hs.trans hw)
  · rename_i hv
    split
    · rename_i w hw
      cases hv.symm.trans (hs.trans hw)
    · exact ha

theorem FormatCall.selectOr_congr {value : Value} {kinds : List KeyKind} {otherwise : Bool}
    {first second : Except RenderError Fragment} (hl : p.locale = q.locale)
    (hn : ∀ v (hv : v ∈ settings.values), v ∈ settings.messageValues → nestedP v hv = nestedQ v hv)
    (hk : .name ∉ kinds) (ha : first = second) :
    selectOr ⟨context, p, settings⟩ nestedP value kinds otherwise first =
      selectOr ⟨context, q, settings⟩ nestedQ value kinds otherwise second :=
  selectOr_eq_of_select (select_congr hl value kinds otherwise) hn hk ha

/-- Formatters that are built in see no more of the parameters than the locale, and what becomes of
    the messages in the settings. -/
theorem formatValue_congr (hb : context.registry.AllBuiltin) (hl : p.locale = q.locale)
    (hn : ∀ v (hv : v ∈ settings.values), v ∈ settings.messageValues → nestedP v hv = nestedQ v hv)
    (format : Option String) (value : Value) :
    formatValue ⟨context, p, settings⟩ nestedP format value =
      formatValue ⟨context, q, settings⟩ nestedQ format value := by
  induction format, value using formatValue_induction with
  | step format value spent inside =>
    -- Every formatter but the last looks for an entry first; only if there is none do they differ.
    have hselect {v : Value} {kinds : List KeyKind} {otherwise : Bool}
        {first second : Except RenderError Fragment} (hk : .name ∉ kinds) (ha : first = second) :
        FormatCall.selectOr ⟨context, p, settings⟩ nestedP v kinds otherwise first =
          FormatCall.selectOr ⟨context, q, settings⟩ nestedQ v kinds otherwise second :=
      FormatCall.selectOr_congr hl hn hk ha
    -- which formatter it is follows from the registry, the format and the value
    obtain ⟨kind, hk⟩ := hb.resolve format value.typeName
    rw [formatValue.eq_def ⟨context, p, settings⟩ nestedP format value,
      formatValue.eq_def ⟨context, q, settings⟩ nestedQ format value]
    dsimp only
    rw [hk]
    cases kind with
    | string =>
      refine hselect (by decide) ?_
      split
      · rfl
      · exact hselect (by decide) rfl
    | number =>
      refine hselect (by decide) (hselect (by decide) ?_)
      show Except.ok (Fragment.unspaced (numberText (context.localeFor p) value)) = _
      rw [Context.localeFor_congr hl]
      rfl
    | bool =>
      refine hselect (by decide) ?_
      split
      · rfl
      · exact hselect (by decide) rfl
    | choice => exact hselect (by decide) rfl
    | size =>
      refine hselect (by decide) ?_
      cases format with
      | none => rfl
      | some name => exact spent rfl _
    | clip =>
      refine hselect (by decide) ?_
      split
      · rfl
      cases format with
      | none => rfl
      | some name =>
        dsimp only
        rw [spent rfl value]
        rfl
    | list =>
      refine hselect (by decide) ?_
      split
      · rename_i values
        rw [mapM_congr fun element _ => (inside element.1 (.element element.2)).1]
        rfl
      · rfl
    | map =>
      refine hselect (by decide) ?_
      split
      · rename_i entries
        rw [mapM_congr fun entry _ => by
          rw [(inside entry.1.1 (.key entry.2)).1, (inside entry.1.2 (.value entry.2)).1]]
        rfl
      · rfl
    | optional =>
      refine hselect (by decide) ?_
      split
      · exact (inside _ (.present _)).1
      · rfl
    | supplier =>
      dsimp only
      split
      · exact (inside _ (.supplied _)).2
      · rfl

end Locale

end Phrasebook
