import Phrasebook.Proofs.Template.Nesting
import Phrasebook.Template.Names

/-! # Names that a message mentions

    The names of a message are those of its placeholders and those of every message that may be
    rendered for one of them. -/

namespace Phrasebook

/-! ### Sorted names -/

theorem mem_eraseRepsBy_loop {name first : String} {names found : List String} :
    name ∈ List.eraseRepsBy.loop (· == ·) first names found ↔
      name ∈ found ∨ name = first ∨ name ∈ names := by
  induction names generalizing first found with
  | nil => simp [List.eraseRepsBy.loop, or_comm]
  | cons next names ih =>
    unfold List.eraseRepsBy.loop
    -- a name that repeats is dropped, but it was found before
    by_cases hn : first = next
    · subst hn
      simp [ih]
    · have hb : (first == next) = false := beq_false_of_ne hn
      simp only [hb, ih, List.mem_cons]
      rw [or_assoc, or_left_comm]

/-- Sorting loses no name and adds none. -/
@[simp] theorem mem_sortNames {name : String} {names : List String} :
    name ∈ sortNames names ↔ name ∈ names := by
  unfold sortNames List.eraseReps
  rw [← @List.mem_mergeSort _ (fun a b => decide (a ≤ b)) name names]
  cases names.mergeSort fun a b => decide (a ≤ b) with
  | nil => rfl
  | cons first rest =>
    unfold List.eraseRepsBy
    rw [mem_eraseRepsBy_loop]
    simp

/-! ### Mentioned names -/

/-- The names of what a value in settings is read as. -/
def SettingValue.mentioned (value : SettingValue) : List String :=
  match value.toMessage with
  | .ok inner => inner.mentioned
  | .error _ => []

/-- The names of a part. -/
def Part.mentioned : Part → List String
  | .literal _ => []
  | .placeholder place => place.name :: place.settings.values.flatMap SettingValue.mentioned

namespace Message

/-! ### One step -/

theorem mentioned_variants (variants : List (Locale × Message)) :
    (localized variants).mentioned = variants.flatMap fun variant => variant.2.mentioned := by
  rw [mentioned, List.flatMap_subtype fun _ _ => rfl, List.unattach_attach]

theorem mentioned_coded (code : String) (inner : Message) :
    (coded code inner).mentioned = inner.mentioned := by
  rw [mentioned]

/-- A message without variants and code mentions what its parts do. -/
theorem mentioned_parts {message : Message} (hl : ∀ variants, message ≠ .localized variants)
    (hc : ∀ code inner, message ≠ .coded code inner) :
    message.mentioned = message.parts.flatMap Part.mentioned := by
  rw [mentioned, List.flatMap_subtype, List.unattach_attach]
  · intro part hp
    cases part with
    | literal text => rfl
    | placeholder place =>
      refine congrArg (place.name :: ·) ?_
      refine (List.flatMap_subtype (g := SettingValue.mentioned) fun value _ => ?_).trans ?_
      · dsimp only
        rw [SettingValue.mentioned]
        split <;> rename_i h <;> rw [h]
      · rw [List.unattach_attach]
  · exact hl
  · exact hc

/-! ### What a message nests -/

theorem mentioned_localized {variants : List (Locale × Message)} {variant : Locale × Message}
    (h : variant ∈ variants) : variant.2.mentioned ⊆ (localized variants).mentioned := by
  intro name hn
  rw [mentioned_variants]
  exact List.mem_flatMap.2 ⟨variant, h, hn⟩

/-- A message with a placeholder has no variants. -/
theorem ne_localized_of_mem_parts {message : Message} {part : Part} (h : part ∈ message.parts)
    (variants : List (Locale × Message)) : message ≠ localized variants := by
  rintro rfl
  exact absurd h List.not_mem_nil

theorem ne_coded_of_mem_parts {message : Message} {part : Part} (h : part ∈ message.parts)
    (code : String) (inner : Message) : message ≠ coded code inner := by
  rintro rfl
  exact absurd h List.not_mem_nil

variable {message : Message} {place : Placeholder}

/-- The names of a part are among those of its message. -/
theorem mentioned_subset_of_mem_parts {part : Part} (h : part ∈ message.parts) :
    part.mentioned ⊆ message.mentioned := by
  intro name hn
  rw [mentioned_parts (ne_localized_of_mem_parts h) (ne_coded_of_mem_parts h)]
  exact List.mem_flatMap.2 ⟨part, h, hn⟩

theorem name_mem_mentioned (h : .placeholder place ∈ message.parts) :
    place.name ∈ message.mentioned :=
  mentioned_subset_of_mem_parts h List.mem_cons_self

/-- Whatever a value in the settings of a placeholder is read as, its names are mentioned. -/
theorem mentioned_subset_of_toMessage {value : SettingValue} {inner : Message}
    (h : .placeholder place ∈ message.parts) (hv : value ∈ place.settings.values)
    (hm : value.toMessage = .ok inner) : inner.mentioned ⊆ message.mentioned := by
  intro name hn
  apply mentioned_subset_of_mem_parts h
  apply List.mem_cons_of_mem
  have hvalue : value.mentioned = inner.mentioned := by rw [SettingValue.mentioned, hm]
  exact List.mem_flatMap.2 ⟨value, hv, hvalue ▸ hn⟩

/-- The names of a message cover those of what it nests. -/
theorem Nests.mentioned_subset {inner : Message} (h : message.Nests (.ok inner)) :
    inner.mentioned ⊆ message.mentioned := by
  cases h with
  | variant h => exact mentioned_localized h
  | coded code =>
    rw [mentioned_coded]
    exact List.Subset.refl _
  | value hp hv hr =>
    exact mentioned_subset_of_toMessage hp (Settings.mem_values_of_mem_messageValues hv) hr

end Message

end Phrasebook
