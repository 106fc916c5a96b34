import Phrasebook.Proofs.Formatter.Resolution
import Phrasebook.Proofs.Rendering.Message
import Phrasebook.Proofs.Text.Gluing

/-! # Empty literals do not show

    Folding drops the empty literals of a message and moves their flags to the parts next to them:
    behind the part in front of them, or in front of the first part that stays. A joiner does not
    tell the difference, whatever the parts are rendered to: a flag that a fragment without text
    leaves behind is pending, and so is the flag of what stands next to it.

    * `addParts_foldBehind`: the part in front of empty literals takes their flags;
    * `addParts_foldEmptyFrom`: leading ones leave theirs to the first part that stays. -/

namespace Phrasebook

variable {context : Context} {parameters : Parameters}

namespace Joiner

/-- Renders parts in order and adds them to a joiner, up to the first error. -/
def addParts (context : Context) (parameters : Parameters) :
    Joiner → List Part → Except RenderError Joiner
  | j, [] => .ok j
  | j, part :: parts => do
    let fragment ← renderPart context parameters part
    addParts context parameters (j.add fragment) parts

theorem addParts_eq (j : Joiner) (parts : List Part) :
    j.addParts context parameters parts =
      (parts.mapM (renderPart context parameters)).map j.addAll := by
  induction parts generalizing j with
  | nil => rfl
  | cons part parts ih =>
    rw [addParts, List.mapM_cons]
    cases renderPart context parameters part with
    | error e => rfl
    | ok fragment =>
      show (j.add fragment).addParts context parameters parts = _
      rw [ih]
      cases parts.mapM (renderPart context parameters) <;> rfl

/-- Several parts are rendered by a joiner that is given all of them. -/
theorem renderMessage_multiple (parts : List Part) :
    renderMessage context parameters (.multiple parts) =
      (addParts context parameters {} parts).map toSpaced := by
  rw [renderMessage_parts (by simp) (by simp), addParts_eq]
  show (parts.mapM (renderPart context parameters)).map (joinParts (.multiple parts)) = _
  cases parts.mapM (renderPart context parameters) <;> rfl

end Joiner

/-! ### Flags of parts -/

/-- The flags of a part are added to what it is rendered to, and change nothing else. -/
theorem renderPart_addSpaces (part : Part) (before after : Bool) :
    renderPart context parameters (part.addSpaces before after) =
      (renderPart context parameters part).map (·.withSpaces before after) := by
  cases part with
  | literal text => rfl
  | placeholder place =>
    unfold renderPart Part.addSpaces
    dsimp only
    rw [renderPlaceholder_eq, renderPlaceholder_eq]
    -- the flags stand outside of what the formatter is asked for
    generalize (context.valueOf parameters place.name >>= formatValue
      ⟨context, parameters, place.settings⟩ (fun value _ => renderNested context parameters value)
      place.format) = rendered
    cases rendered with
    | error e => rfl
    | ok fragment =>
      show Except.ok _ = Except.ok ((fragment.withSpaces _ _).withSpaces before after)
      rw [Fragment.withSpaces_withSpaces]

namespace Joiner

theorem addParts_cons_of_isEmptyText (j : Joiner) {part : Part} (h : part.isEmptyText = true)
    (parts : List Part) :
    j.addParts context parameters (part :: parts) =
      (j.add ⟨"", part.spaceBefore, part.spaceAfter⟩).addParts context parameters parts := by
  cases part with
  | placeholder place => cases h
  | literal text =>
    obtain ⟨text, before, after⟩ := text
    obtain rfl : text = "" := String.isEmpty_iff.1 h
    rfl

/-- The part in front of empty literals takes their flags. -/
theorem addParts_foldBehind (j : Joiner) (last : Part) (parts : List Part) :
    j.addParts context parameters (Part.foldBehind last parts) =
      j.addParts context parameters (last :: parts) := by
  induction parts generalizing j last with
  | nil => rfl
  | cons part parts ih =>
    rw [Part.foldBehind]
    by_cases hempty : part.isEmptyText = true
    · rw [if_pos hempty, ih, addParts, renderPart_addSpaces, addParts]
      cases renderPart context parameters last with
      | error e => rfl
      | ok fragment =>
        let flags : Fragment := ⟨"", part.spaceBefore, part.spaceAfter⟩
        show (j.add (fragment.withSpaces false flags.flagged)).addParts context parameters parts =
          (j.add fragment).addParts context parameters (part :: parts)
        rw [addParts_cons_of_isEmptyText _ hempty, add_withSpaces_behind rfl]
    · rw [if_neg hempty, addParts, addParts]
      simp only [ih]

/-- Leading empty literals leave their flags to the first part that stays, if there is one. -/
theorem addParts_foldEmptyFrom (j : Joiner) (pending : Bool) {parts : List Part}
    (h : ∃ part ∈ parts, part.isEmptyText = false) :
    j.addParts context parameters (Part.foldEmptyFrom pending parts) =
      (j.add ⟨"", pending, false⟩).addParts context parameters parts := by
  induction parts generalizing pending with
  | nil =>
    obtain ⟨part, hp, -⟩ := h
    cases hp
  | cons part parts ih =>
    rw [Part.foldEmptyFrom]
    by_cases hempty : part.isEmptyText = true
    · have hrest : ∃ part ∈ parts, part.isEmptyText = false := by
        obtain ⟨kept, hk, hkept⟩ := h
        rcases List.mem_cons.1 hk with rfl | hk
        · cases hempty.symm.trans hkept
        · exact ⟨kept, hk, hkept⟩
      have hflags : j.add ⟨"", pending || part.spaceBefore || part.spaceAfter, false⟩ =
          (j.add ⟨"", pending, false⟩).add ⟨"", part.spaceBefore, part.spaceAfter⟩ := by
        rw [add_of_isEmpty rfl, add_of_isEmpty rfl, add_of_isEmpty rfl]
        simp [Fragment.flagged, Bool.or_assoc]
      rw [if_pos hempty, ih _ hrest, hflags, addParts_cons_of_isEmptyText _ hempty]
    · rw [if_neg hempty, addParts_foldBehind, addParts, renderPart_addSpaces, addParts]
      cases renderPart context parameters part with
      | error e => rfl
      | ok fragment =>
        let flags : Fragment := ⟨"", pending, false⟩
        have hflags : flags.flagged = pending := Bool.or_false pending
        show (j.add (fragment.withSpaces pending false)).addParts context parameters parts =
          ((j.add flags).add fragment).addParts context parameters parts
        rw [← hflags, add_withSpaces_before rfl]

end Joiner

/-- Folding leaves every joiner as the parts themselves do, with the same error if there is one, as
    long as there is a part that stays. So a message of several parts may be made with or without
    it. -/
theorem addParts_foldEmpty (context : Context) (parameters : Parameters) (j : Joiner)
    (parts : List Part) (h : ∃ part ∈ parts, part.isEmptyText = false) :
    j.addParts context parameters (Part.foldEmpty parts) = j.addParts context parameters parts ∧
      (2 ≤ (Part.foldEmpty parts).length →
        renderMessage context parameters (.ofParts parts) =
          renderMessage context parameters (.multiple parts)) := by
  have hfold (j : Joiner) :
      j.addParts context parameters (Part.foldEmpty parts) =
        j.addParts context parameters parts := by
    rw [Part.foldEmpty, Joiner.addParts_foldEmptyFrom j false h]
    exact congrArg (·.addParts context parameters parts) (Joiner.add_empty j)
  constructor
  · exact hfold j
  · intro hseveral
    have hparts : Message.ofParts parts = .multiple (Part.foldEmpty parts) := by
      unfold Message.ofParts
      split
      · rename_i hnone
        rw [hnone] at hseveral
        cases hseveral
      · rename_i part hone
        rw [hone] at hseveral
        simp at hseveral
      · rfl
    rw [hparts, Joiner.renderMessage_multiple, Joiner.renderMessage_multiple, hfold]

/-- A space in front of a placeholder without a value, and one behind it: the two letters are
    rendered with one space between them. -/
theorem addParts_foldEmpty_absent :
    let place : Placeholder := ⟨"n", none, {}, false, false⟩
    let parts : List Part := [.literal ⟨"a", false, false⟩, .literal ⟨"", true, false⟩,
      .placeholder place, .literal ⟨"", false, true⟩, .literal ⟨"b", false, false⟩]
    (∃ part ∈ parts, part.isEmptyText = false) ∧ 2 ≤ (Part.foldEmpty parts).length ∧
      Joiner.addParts .standard {} {} (Part.foldEmpty parts) = .ok ⟨"a b", false⟩ ∧
      renderMessage .standard {} (.ofParts parts) = .ok ⟨"a b", false, false⟩ := by
  intro place parts
  have h : ∃ part ∈ parts, part.isEmptyText = false := ⟨_, List.mem_cons_self, rfl⟩
  have hseveral : 2 ≤ (Part.foldEmpty parts).length := by decide
  have hnull (nested : NestedRenderer place.settings) :
      formatValue ⟨.standard, {}, place.settings⟩ nested none .null = .ok .empty := by
    have hresolve : Context.standard.registry.resolve none Value.null.typeName =
        .builtin .string := Registry.resolve_standard .null (by simp)
    rw [formatValue.eq_def, hresolve]
    rfl
  have hplace : renderPart .standard {} (.placeholder place) = .ok .empty :=
    (renderPlaceholder_eq_ok_iff place rfl).2 ⟨.empty, hnull _, rfl⟩
  have hjoined : Joiner.addParts .standard {} {} parts = .ok ⟨"a b", false⟩ := by
    rw [Joiner.addParts_eq]
    simp only [parts, List.mapM_cons, hplace]
    rfl
  obtain ⟨hstate, hmessage⟩ := addParts_foldEmpty .standard {} {} parts h
  refine ⟨h, hseveral, hstate.trans hjoined, ?_⟩
  rw [hmessage hseveral, Joiner.renderMessage_multiple, hjoined]
  rfl

end Phrasebook
