import Phrasebook.Formatter.Registry

/-! # Registries of built-in formatters

    The registry with the built-in formatters, whatever types are declared in it, resolves every
    format and every type to one of them. A formatter that has no types is found by its name only. -/

namespace Phrasebook

/-- Tells whether a formatter is one of those that are built in. -/
def Formatter.IsBuiltin (formatter : Formatter) : Prop := ∃ kind, formatter = .builtin kind

namespace Registry

/-- All formatters of a registry are built in. -/
structure AllBuiltin (registry : Registry) : Prop where
  /-- Those that formats name. -/
  named : ∀ entry ∈ registry.named, entry.2.IsBuiltin
  /-- Those of types. -/
  typed : ∀ entry ∈ registry.typed, ∀ r ∈ entry.2, r.formatter.IsBuiltin

/-! ### Registration -/

theorem mem_insertRegistration {r s : Registration} {rs : List Registration}
    (h : s ∈ insertRegistration r rs) : s = r ∨ s ∈ rs := by
  induction rs with
  | nil => exact .inl (List.mem_singleton.1 h)
  | cons first rest ih =>
    unfold insertRegistration at h
    split at h
    · exact List.mem_cons.1 h
    · rcases List.mem_cons.1 h with rfl | h
      · exact .inr List.mem_cons_self
      · exact (ih h).imp id (List.mem_cons_of_mem _)

/-- A registration that is found afterwards was added or stood there before. -/
theorem mem_addTyped {name : String} {r s : Registration}
    {typed : List (String × List Registration)} {entry : String × List Registration}
    (h : entry ∈ addTyped name r typed) (hs : s ∈ entry.2) :
    s = r ∨ ∃ before ∈ typed, s ∈ before.2 := by
  induction typed with
  | nil =>
    obtain rfl := List.mem_singleton.1 h
    exact .inl (List.mem_singleton.1 hs)
  | cons first rest ih =>
    obtain ⟨key, rs⟩ := first
    unfold addTyped at h
    split at h
    · rcases List.mem_cons.1 h with rfl | h
      · exact (mem_insertRegistration hs).imp id fun hr => ⟨_, List.mem_cons_self, hr⟩
      · exact .inr ⟨entry, List.mem_cons_of_mem _ h, hs⟩
    · rcases List.mem_cons.1 h with rfl | h
      · exact .inr ⟨_, List.mem_cons_self, hs⟩
      · refine (ih h).imp id fun hb => ?_
        obtain ⟨before, hmem, hb⟩ := hb
        exact ⟨before, List.mem_cons_of_mem _ hmem, hb⟩

theorem allBuiltin_empty : empty.AllBuiltin := by
  constructor <;> intro entry h <;> exact absurd h List.not_mem_nil

/-- Declarations of types leave the formatters alone. -/
theorem AllBuiltin.declareType {registry : Registry} (h : registry.AllBuiltin) (name : String)
    (super : Option String) (interfaces : List String) :
    (registry.declareType name super interfaces).AllBuiltin :=
  ⟨h.named, h.typed⟩

theorem AllBuiltin.register {registry : Registry} (h : registry.AllBuiltin) (kind : Builtin) :
    (registry.register (.builtin kind)).AllBuiltin := by
  constructor
  · intro entry he
    show entry.2.IsBuiltin
    cases hn : kind.name? with
    | none =>
      simp only [Registry.register, Formatter.name?, hn] at he
      exact h.named entry he
    | some name =>
      simp only [Registry.register, Formatter.name?, hn] at he
      rcases List.mem_cons.1 he with rfl | he
      · exact ⟨kind, rfl⟩
      · exact h.named entry (List.mem_filter.1 he).1
  · show ∀ entry ∈ List.foldl _ registry.typed (Formatter.types (.builtin kind)), _
    -- the types are registered one after the other, starting from what is there
    generalize Formatter.types (.builtin kind) = types
    have htyped := h.typed
    generalize registry.typed = typed at htyped ⊢
    induction types generalizing typed with
    | nil => exact htyped
    | cons type types ih =>
      refine ih _ fun entry he r hr => ?_
      rcases mem_addTyped he hr with rfl | ⟨before, hb, hr⟩
      · exact ⟨kind, rfl⟩
      · exact htyped before hb r hr

/-- The registry with the built-in formatters has no other ones. -/
theorem allBuiltin_standard : standard.AllBuiltin := by
  unfold standard
  generalize Builtin.all = kinds
  have h := allBuiltin_empty
  generalize empty = registry at h ⊢
  induction kinds generalizing registry with
  | nil => exact h
  | cons kind kinds ih => exact ih _ (h.register kind)

/-! ### Resolution -/

theorem mem_of_lookup {V : Type} {entries : List (String × V)} {name : String} {v : V}
    (h : entries.lookup name = some v) : (name, v) ∈ entries := by
  obtain ⟨front, back, rfl, -⟩ := List.lookup_eq_some_iff.1 h
  exact List.mem_append_right _ List.mem_cons_self

theorem AllBuiltin.isBuiltin_of_mem_formattersFor {registry : Registry} (h : registry.AllBuiltin)
    {type : String} {formatter : Formatter} (hf : formatter ∈ registry.formattersFor type) :
    formatter.IsBuiltin := by
  obtain ⟨name, -, hf⟩ := List.mem_flatMap.1 hf
  obtain ⟨r, hr, rfl⟩ := List.mem_map.1 hf
  cases hl : registry.typed.lookup name with
  | none => simp [hl] at hr
  | some rs =>
    simp only [hl, Option.getD_some] at hr
    exact h.typed (name, rs) (mem_of_lookup hl) r hr

/-- What a registry of built-in formatters resolves to is built in. -/
theorem AllBuiltin.resolve {registry : Registry} (h : registry.AllBuiltin) (format : Option String)
    (type : String) : (registry.resolve format type).IsBuiltin := by
  unfold Registry.resolve Registry.find?
  cases hn : (format.filter (· ≠ "")).bind registry.named? with
  | some formatter =>
    obtain ⟨name, -, hl⟩ := Option.bind_eq_some_iff.1 hn
    exact h.named (name, formatter) (mem_of_lookup hl)
  | none =>
    cases hf : (registry.formattersFor type).head? with
    | none => exact ⟨.string, rfl⟩
    | some formatter => exact h.isBuiltin_of_mem_formattersFor (List.mem_of_mem_head? hf)

/-! ### Formatters without types -/

/-- The formatters of types are those that have types. -/
def Typed (registry : Registry) : Prop :=
  ∀ entry ∈ registry.typed, ∀ r ∈ entry.2, r.formatter.types ≠ []

theorem Typed.declareType {registry : Registry} (h : registry.Typed) (name : String)
    (super : Option String) (interfaces : List String) :
    (registry.declareType name super interfaces).Typed :=
  h

/-- A formatter is registered for each of its types, so one without types is for none. -/
theorem Typed.register {registry : Registry} (h : registry.Typed) (formatter : Formatter) :
    (registry.register formatter).Typed := by
  have hfold (types : List FormattableType) (htypes : types ≠ [] → formatter.types ≠ [])
      (typed : List (String × List Registration))
      (htyped : ∀ entry ∈ typed, ∀ r ∈ entry.2, r.formatter.types ≠ []) :
      ∀ entry ∈ types.foldl (fun typed type =>
          addTyped type.name ⟨type.order, registry.next, formatter⟩ typed) typed,
        ∀ r ∈ entry.2, r.formatter.types ≠ [] := by
    induction types generalizing typed with
    | nil => exact htyped
    | cons type types ih =>
      have hsome := htypes (List.cons_ne_nil type types)
      refine ih (fun _ => hsome) _ fun entry he r hr => ?_
      rcases mem_addTyped he hr with rfl | ⟨before, hb, hr⟩
      · exact hsome
      · exact htyped before hb r hr
  exact hfold formatter.types id registry.typed h

theorem typed_standard : standard.Typed := by
  unfold standard
  generalize Builtin.all = kinds
  have h : empty.Typed := by
    intro entry he
    exact absurd he List.not_mem_nil
  generalize empty = registry at h ⊢
  induction kinds generalizing registry with
  | nil => exact h
  | cons kind kinds ih => exact ih _ (h.register (.builtin kind))

/-- Without a format a formatter with types is found, or the one for strings. -/
theorem Typed.isSome_of_resolve {registry : Registry} (h : registry.Typed) {format : Option String}
    {type : String} {formatter : Formatter} (hr : registry.resolve format type = formatter)
    (hf : formatter.types = []) : format.isSome := by
  cases format with
  | some name => rfl
  | none =>
    exfalso
    subst hr
    cases hhead : (registry.formattersFor type).head? with
    | none => simp [resolve, find?, hhead, Formatter.types, Builtin.types] at hf
    | some formatter =>
      have hfound : registry.resolve none type = formatter := by
        rw [resolve, find?, hhead]
        rfl
      rw [hfound] at hf
      obtain ⟨name, -, hmem⟩ := List.mem_flatMap.1 (List.mem_of_mem_head? hhead)
      obtain ⟨r, hr, rfl⟩ := List.mem_map.1 hmem
      cases hl : registry.typed.lookup name with
      | none => simp [hl] at hr
      | some rs =>
        simp only [hl, Option.getD_some] at hr
        exact h (name, rs) (mem_of_lookup hl) r hr hf

/-! ### Declarations -/

/-- The registry with the built-in formatters and declared types. -/
def withTypes (declarations : List (String × Option String × List String)) : Registry :=
  declarations.foldl (fun registry (name, super, interfaces) =>
    registry.declareType name super interfaces) standard

/-- What declarations of types preserve holds of the registry with any of them. -/
theorem withTypes_induction {motive : Registry → Prop} (hstandard : motive standard)
    (hdeclare : ∀ registry name super interfaces, motive registry →
      motive (registry.declareType name super interfaces))
    (declarations : List (String × Option String × List String)) :
    motive (withTypes declarations) := by
  unfold withTypes
  generalize standard = registry at hstandard ⊢
  induction declarations generalizing registry with
  | nil => exact hstandard
  | cons declaration declarations ih => exact ih _ (hdeclare registry _ _ _ hstandard)

theorem allBuiltin_withTypes (declarations : List (String × Option String × List String)) :
    (withTypes declarations).AllBuiltin :=
  withTypes_induction allBuiltin_standard (fun _ name super interfaces h =>
    h.declareType name super interfaces) declarations

theorem AllBuiltin.of_withTypes {registry : Registry}
    {declarations : List (String × Option String × List String)}
    (h : registry = .withTypes declarations) : registry.AllBuiltin :=
  h ▸ allBuiltin_withTypes declarations

theorem typed_withTypes (declarations : List (String × Option String × List String)) :
    (withTypes declarations).Typed :=
  withTypes_induction typed_standard (fun _ name super interfaces h =>
    h.declareType name super interfaces) declarations

end Registry

end Phrasebook
