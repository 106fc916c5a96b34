import Phrasebook.Proofs.Rendering.Dispatch

/-! # Where formatting stops

    Formatting goes on with messages in the settings, and asks a renderer for them. If it fails
    although its formatters are built in, it stops at one of these messages: whatever error this one
    has, it is the error of formatting, no matter what becomes of others that fail (`StopsAt`).
    There is one such message at most, so it may be said to be the place of the error. -/

namespace Phrasebook

section Stopping

variable {settings : Settings SettingValue} {nested : NestedRenderer settings} {α β ι : Type}
  {run : NestedRenderer settings → Except RenderError α}

/-- What one renderer renders, the other one renders alike. -/
def NestedRenderer.Extends (more nested : NestedRenderer settings) : Prop :=
  ∀ v hv fragment, nested v hv = .ok fragment → more v hv = .ok fragment

/-- There is a result, which only depends on what is rendered without an error. -/
def GoesOn (run : NestedRenderer settings → Except RenderError α)
    (nested : NestedRenderer settings) : Prop :=
  ∃ a, ∀ more : NestedRenderer settings, more.Extends nested → run more = .ok a

/-- There is no result because this value has none. -/
structure StopsAt (run : NestedRenderer settings → Except RenderError α)
    (nested : NestedRenderer settings) (v : SettingValue) : Prop where
  /-- The value is one that becomes a message. -/
  mem : v ∈ settings.messageValues
  /-- It can not be rendered. -/
  fails : ∃ e, nested v (Settings.mem_values_of_mem_messageValues mem) = .error e
  /-- Its error is passed on, even if it is another one or if further values fail otherwise. -/
  passes : ∀ more : NestedRenderer settings, more.Extends nested →
    ∀ e, more v (Settings.mem_values_of_mem_messageValues mem) = .error e → run more = .error e

/-- There is a result, or one value is to blame that there is none. -/
def GoesOrStops (run : NestedRenderer settings → Except RenderError α)
    (nested : NestedRenderer settings) : Prop :=
  GoesOn run nested ∨ ∃ v, StopsAt run nested v

theorem NestedRenderer.Extends.refl (nested : NestedRenderer settings) : nested.Extends nested :=
  fun _ _ _ h => h

/-- Rendering a value stops at it. -/
theorem stopsAt_nested {v : SettingValue} {e : RenderError} (hv : v ∈ settings.messageValues)
    (h : nested v (Settings.mem_values_of_mem_messageValues hv) = .error e) :
    StopsAt (fun nested => nested v (Settings.mem_values_of_mem_messageValues hv)) nested v :=
  ⟨hv, ⟨e, h⟩, fun _ _ _ he => he⟩

theorem StopsAt.of_go {v : SettingValue} {next : α → NestedRenderer settings → Except RenderError β}
    {a : α} (ha : ∀ more : NestedRenderer settings, more.Extends nested → run more = .ok a)
    (h : StopsAt (next a) nested v) :
    StopsAt (fun nested => run nested >>= fun a => next a nested) nested v where
  mem := h.mem
  fails := h.fails
  passes := by
    intro more hmore e he
    rw [ha more hmore]
    exact h.passes more hmore e he

/-- The rest of a chain does not matter behind the step that stops. -/
theorem StopsAt.bind {v : SettingValue} (h : StopsAt run nested v)
    (next : α → NestedRenderer settings → Except RenderError β) :
    StopsAt (fun nested => run nested >>= fun a => next a nested) nested v where
  mem := h.mem
  fails := h.fails
  passes := by
    intro more hmore e he
    rw [h.passes more hmore e he]
    rfl

/-- The error of a run that stops is the one of the value at which it stops. -/
theorem StopsAt.eq_error {v : SettingValue} {e : RenderError} (h : StopsAt run nested v)
    (he : run nested = .error e) :
    nested v (Settings.mem_values_of_mem_messageValues h.mem) = .error e := by
  obtain ⟨e', he'⟩ := h.fails
  obtain rfl := Except.error.inj (he.symm.trans (h.passes nested (.refl nested) e' he'))
  exact he'

theorem GoesOrStops.stopsAt {e : RenderError} (h : GoesOrStops run nested)
    (he : run nested = .error e) : ∃ v, StopsAt run nested v := by
  rcases h with ⟨a, ha⟩ | hv
  · cases he.symm.trans (ha nested (.refl nested))
  · exact hv

/-! ### One place at most -/

/-- Two errors of two values can not both be passed on. -/
theorem StopsAt.unique {v w : SettingValue} (hv : StopsAt run nested v)
    (hw : StopsAt run nested w) : v = w := by
  classical
  by_cases hne : v = w
  · exact hne
  exfalso
  obtain ⟨first, second, hdiffer⟩ : ∃ first second : RenderError, first ≠ second :=
    ⟨{ cause := .missingParameter "v" }, { cause := .missingParameter "w" }, by decide⟩
  let more : NestedRenderer settings := fun u hu =>
    if u = v then .error first else if u = w then .error second else nested u hu
  have hmore : more.Extends nested := by
    intro u hu fragment hfragment
    have huv : u ≠ v := by
      rintro rfl
      obtain ⟨e, he⟩ := hv.fails
      cases he.symm.trans hfragment
    have huw : u ≠ w := by
      rintro rfl
      obtain ⟨e, he⟩ := hw.fails
      cases he.symm.trans hfragment
    exact ((if_neg huv).trans (if_neg huw)).trans hfragment
  have hrunv := hv.passes more hmore first (if_pos rfl)
  have hrunw := hw.passes more hmore second ((if_neg (Ne.symm hne)).trans (if_pos rfl))
  exact hdiffer (Except.error.inj (hrunv.symm.trans hrunw))

/-! ### Chains -/

theorem goesOrStops_ok (a : α) : GoesOrStops (fun _ => .ok a) nested := .inl ⟨a, fun _ _ => rfl⟩

namespace GoesOrStops

theorem of_nested {v : SettingValue} (hv : v ∈ settings.messageValues) :
    GoesOrStops (fun nested => nested v (Settings.mem_values_of_mem_messageValues hv)) nested := by
  cases h : nested v (Settings.mem_values_of_mem_messageValues hv) with
  | ok fragment => exact .inl ⟨fragment, fun more hmore => hmore v _ fragment h⟩
  | error e => exact .inr ⟨v, stopsAt_nested hv h⟩

theorem bind {next : α → NestedRenderer settings → Except RenderError β}
    (h : GoesOrStops run nested) (hnext : ∀ a, GoesOrStops (next a) nested) :
    GoesOrStops (fun nested => run nested >>= fun a => next a nested) nested := by
  rcases h with ⟨a, ha⟩ | ⟨v, hv⟩
  · rcases hnext a with ⟨b, hb⟩ | ⟨v, hv⟩
    · refine .inl ⟨b, fun more hmore => ?_⟩
      dsimp only
      rw [ha more hmore]
      exact hb more hmore
    · exact .inr ⟨v, hv.of_go ha⟩
  · exact .inr ⟨v, hv.bind next⟩

theorem map (h : GoesOrStops run nested) (f : α → β) :
    GoesOrStops (fun nested => (run nested).map f) nested := by
  have hbind := h.bind fun a => goesOrStops_ok (f a)
  have heq (r : Except RenderError α) : (r >>= fun a => .ok (f a)) = r.map f := by
    cases r <;> rfl
  simpa only [heq] using hbind

/-- A list stops where one of its elements does. -/
theorem mapM {xs : List ι} {f : ι → NestedRenderer settings → Except RenderError α}
    (h : ∀ x ∈ xs, GoesOrStops (f x) nested) :
    GoesOrStops (fun nested => xs.mapM fun x => f x nested) nested := by
  induction xs with
  | nil => exact goesOrStops_ok []
  | cons x xs ih =>
    simp only [List.mapM_cons]
    have hx := h x List.mem_cons_self
    have hxs := ih fun y hy => h y (List.mem_cons_of_mem x hy)
    exact hx.bind fun b => hxs.bind fun bs => goesOrStops_ok (b :: bs)

theorem ite {p : Prop} [Decidable p] {other : NestedRenderer settings → Except RenderError α}
    (h : GoesOrStops run nested) (ho : GoesOrStops other nested) :
    GoesOrStops (fun nested => if p then run nested else other nested) nested := by
  split
  · exact h
  · exact ho

end GoesOrStops

end Stopping

/-! ### Formatting -/

section Formatting

variable {allowed : RenderError → Prop} {call : FormatCall} {nested : NestedRenderer call.settings}
  {formatted : NestedRenderer call.settings → Except RenderError Fragment}
  {text text' : NestedRenderer call.settings → Except RenderError String}

namespace GoesOrStops

theorem selectOr {value : Value} {kinds : List KeyKind} {otherwise : Bool}
    (hk : .name ∉ kinds) (ha : GoesOrStops formatted nested) :
    GoesOrStops
      (fun nested => call.selectOr nested value kinds otherwise (formatted nested)) nested := by
  unfold FormatCall.selectOr
  split
  · rename_i v hv
    exact of_nested (Settings.mem_messageValues_of_select hk hv)
  · exact ha

theorem textOr {null : String} {value : Value} (h : GoesOrStops formatted nested) :
    GoesOrStops (fun nested => textOr null value (formatted nested)) nested := by
  unfold Phrasebook.textOr
  exact ite (goesOrStops_ok null) (h.map Fragment.text)

theorem entryItem {separator : String} (hk : GoesOrStops text nested)
    (hv : GoesOrStops text' nested) :
    GoesOrStops (fun nested => entryItem separator (text nested) (text' nested)) nested := by
  unfold Phrasebook.entryItem
  exact hk.bind fun k => hv.bind fun v => goesOrStops_ok _

/-- A formatter that is built in has no errors of its own. -/
theorem formatValue (hb : call.context.registry.AllBuiltin) (format : Option String)
    (value : Value) :
    GoesOrStops (fun nested => formatValue call nested format value) nested := by
  induction format, value using formatValue_induction with
  | step format value spent inside =>
    -- whatever a formatter asks for, names are not among it
    have hselect {v : Value} {kinds : List KeyKind} {otherwise : Bool}
        {alternative : NestedRenderer call.settings → Except RenderError Fragment}
        (hk : .name ∉ kinds) (ha : GoesOrStops alternative nested) :
        GoesOrStops
          (fun nested => call.selectOr nested v kinds otherwise (alternative nested)) nested :=
      selectOr hk ha
    have hok (fragment : Fragment) : GoesOrStops (fun _ => .ok fragment) nested :=
      goesOrStops_ok fragment
    obtain ⟨kind, hk⟩ := hb.resolve format value.typeName
    rw [show (fun nested => Phrasebook.formatValue call nested format value) = _ from
      funext fun nested => formatValue.eq_def call nested format value, hk]
    cases kind with
    | string =>
      exact hselect (by decide) (ite (hok _) (hselect (by decide) (hok _)))
    | number => exact hselect (by decide) (hselect (by decide) (hok _))
    | bool =>
      refine hselect (by decide) ?_
      cases truth? value with
      | none => exact hok _
      | some flag => exact hselect (by decide) (hok _)
    | choice => exact hselect (by decide) (hok _)
    | size =>
      refine hselect (by decide) ?_
      cases format with
      | none => exact hok _
      | some name => exact spent rfl _
    | clip =>
      refine hselect (by decide) (ite (hok _) ?_)
      cases format with
      | none => exact hok _
      | some name => exact (spent rfl value).map _
    | list =>
      refine hselect (by decide) ?_
      cases value with
      | list values =>
        refine bind (mapM fun element _ => ?_) fun items => goesOrStops_ok _
        exact (inside element.1 (.element element.2)).1
      | _ => exact hok _
    | map =>
      refine hselect (by decide) ?_
      cases value with
      | map entries =>
        refine bind (mapM fun entry _ => ?_) fun items => goesOrStops_ok _
        exact (inside entry.1.1 (.key entry.2)).1.textOr.entryItem
          (inside entry.1.2 (.value entry.2)).1.textOr
      | _ => exact hok _
    | optional =>
      refine hselect (by decide) ?_
      cases value with
      | optional inner =>
        cases inner with
        | none => exact hok _
        | some inner => exact (inside _ (.present _)).1
      | _ => exact hok _
    | supplier =>
      cases value with
      | supplier inner => exact (inside _ (.supplied _)).2
      | _ => exact hok _

end GoesOrStops

/-- So its errors are those of messages in the settings. -/
theorem FailsOnly.formatValue (hb : call.context.registry.AllBuiltin)
    (hn : ∀ v (hv : v ∈ call.settings.values), v ∈ call.settings.messageValues →
      FailsOnly allowed (nested v hv)) (format : Option String) (value : Value) :
    FailsOnly allowed (formatValue call nested format value) := by
  intro e he
  obtain ⟨v, hv⟩ := (GoesOrStops.formatValue hb format value).stopsAt he
  exact hn v _ hv.mem e (hv.eq_error he)

end Formatting

end Phrasebook
