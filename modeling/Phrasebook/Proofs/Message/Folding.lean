import Mathlib.Data.List.Chain
import Phrasebook.Message.Basic

/-! # Spaces between parts

    Where a template has a space between two placeholders, or at one of its ends, an empty literal is
    read, and folding makes a flag of it. So each space is kept in one place: at a text if one
    stands there, else behind the placeholder in front of it (`Follows`).

    * `foldEmpty_spread`: empty literals in the place of flags are folded into these flags;
    * `arranged_foldEmpty`: what is left when parts are folded as they are read is arranged;
    * `map_bare_foldEmpty`: up to spaces, folding drops empty literals and does nothing else. -/

namespace Phrasebook

namespace Part

/-- How a part may stand behind another one: texts are no neighbours, the spaces at a text are
    flags of the text, and a space between placeholders is a flag of the first one. -/
def Follows : Part → Part → Prop
  | literal _, literal _ => False
  | literal _, placeholder place => place.spaceBefore = false
  | placeholder place, literal _ => place.spaceAfter = false
  | placeholder _, placeholder place => place.spaceBefore = false

/-- Parts with characters, each of which may stand behind the one in front of it. -/
structure Arranged (parts : List Part) : Prop where
  /-- Spaces are kept in one place. -/
  follows : parts.IsChain Follows
  /-- No literal is empty. -/
  nonempty : ∀ part ∈ parts, part.isEmptyText = false

/-! ### Spaces written out -/

/-- The empty literal for a space, if there is one. -/
def gap (spaced : Bool) : List Part := if spaced then [literal ⟨"", true, true⟩] else []

/-- The part with empty literals for the spaces of a placeholder. -/
def spread : Part → List Part
  | literal text => [literal text]
  | placeholder place =>
    gap place.spaceBefore ++
      placeholder { place with spaceBefore := false, spaceAfter := false } :: gap place.spaceAfter

theorem foldBehind_gap (last : Part) (spaced : Bool) (parts : List Part) :
    foldBehind last (gap spaced ++ parts) = foldBehind (last.addSpaces false spaced) parts := by
  cases spaced with
  | false => rw [addSpaces_false]; rfl
  | true => rfl

/-- A space behind a placeholder is folded into its flag. -/
theorem foldBehind_place_gap (place : Placeholder) (before : Bool) (parts : List Part) :
    foldBehind (placeholder { place with spaceBefore := before, spaceAfter := false })
        (gap place.spaceAfter ++ parts) =
      foldBehind (placeholder { place with spaceBefore := before }) parts := by
  rw [foldBehind_gap, addSpaces, Bool.or_false, Bool.false_or]

theorem foldBehind_spread {last : Part} {parts : List Part}
    (hchain : (last :: parts).IsChain Follows)
    (hne : ∀ part ∈ parts, part.isEmptyText = false) :
    foldBehind last (parts.flatMap spread) = last :: parts := by
  induction parts generalizing last with
  | nil => rfl
  | cons part parts ih =>
    obtain ⟨hfollows, hrest⟩ := List.isChain_cons_cons.1 hchain
    obtain ⟨hpart, hparts⟩ := List.forall_mem_cons.1 hne
    rw [List.flatMap_cons]
    cases part with
    | literal text =>
      rw [spread, List.singleton_append, foldBehind, if_neg (by simp [hpart]), ih hrest hparts]
    | placeholder place =>
      -- no space is written out in front, as the part in front of it keeps that one
      obtain ⟨name, format, settings, before, after⟩ := place
      obtain rfl : before = false := by cases last <;> exact hfollows
      rw [spread, gap, if_neg (by simp), List.nil_append, List.cons_append, foldBehind,
        if_neg (by simp [isEmptyText]), foldBehind_place_gap, ih hrest hparts]

/-- Spaces that are written out are folded into the flags that they came from. -/
theorem foldEmpty_spread {parts : List Part} (h : Arranged parts) :
    foldEmpty (parts.flatMap spread) = parts := by
  cases parts with
  | nil => rfl
  | cons part parts =>
    obtain ⟨hpart, hparts⟩ := List.forall_mem_cons.1 h.nonempty
    rw [List.flatMap_cons]
    cases part with
    | literal text =>
      rw [spread, List.singleton_append, foldEmpty, foldEmptyFrom, if_neg (by simp [hpart]),
        addSpaces_false, foldBehind_spread h.follows hparts]
    | placeholder place =>
      have hfirst (spaced : Bool) (rest : List Part) :
          foldEmptyFrom false (gap spaced ++
              placeholder { place with spaceBefore := false, spaceAfter := false } :: rest) =
            foldBehind (placeholder { place with spaceBefore := spaced, spaceAfter := false })
              rest := by
        cases spaced <;> rfl
      rw [spread, foldEmpty, List.append_assoc, List.cons_append, hfirst, foldBehind_place_gap]
      obtain ⟨name, format, settings, before, after⟩ := place
      exact foldBehind_spread h.follows hparts

/-! ### Parts as they are read -/

/-- The part is literal text. -/
def IsLiteral : Part → Prop
  | literal _ => True
  | placeholder _ => False

/-- Parts as they are read: texts are no neighbours, and placeholders have no flags. -/
structure Unfolded (parts : List Part) : Prop where
  /-- Texts are no neighbours. -/
  apart : parts.IsChain fun first second => ¬ (first.IsLiteral ∧ second.IsLiteral)
  /-- Spaces at placeholders are empty literals. -/
  places : ∀ place, placeholder place ∈ parts →
    place.spaceBefore = false ∧ place.spaceAfter = false

theorem Unfolded.tail {part : Part} {parts : List Part} (h : Unfolded (part :: parts)) :
    Unfolded parts :=
  ⟨h.apart.tail, fun place hp => h.places place (List.mem_cons_of_mem part hp)⟩

/-- Behind the part no text may stand, unless it is a placeholder without a space behind it. -/
def Admits (last : Part) (parts : List Part) : Prop :=
  ∀ part ∈ parts.head?, part.IsLiteral →
    ∃ place, last = placeholder place ∧ place.spaceAfter = false

theorem Unfolded.admits {part : Part} {parts : List Part} (h : Unfolded (part :: parts)) :
    Admits part parts := by
  intro next hnext hliteral
  cases part with
  | placeholder place => exact ⟨place, rfl, (h.places place List.mem_cons_self).2⟩
  | literal text =>
    cases parts with
    | nil => cases hnext
    | cons part parts =>
      obtain rfl := Option.some.inj hnext
      exact absurd ⟨trivial, hliteral⟩ (List.isChain_cons_cons.1 h.apart).1

theorem head?_foldBehind (last : Part) (parts : List Part) :
    ∃ spaced, (foldBehind last parts).head? = some (last.addSpaces false spaced) := by
  induction parts generalizing last with
  | nil => exact ⟨false, by rw [foldBehind, addSpaces_false]; rfl⟩
  | cons part parts ih =>
    rw [foldBehind]
    split
    · obtain ⟨spaced, hhead⟩ := ih (last.addSpaces false (part.spaceBefore || part.spaceAfter))
      refine ⟨(part.spaceBefore || part.spaceAfter) || spaced, ?_⟩
      rw [hhead]
      cases last <;> simp [addSpaces, Bool.or_assoc]
    · exact ⟨false, by rw [addSpaces_false]; rfl⟩

theorem follows_foldBehind {last : Part} {parts : List Part} (hlast : last.isEmptyText = false)
    (hadmits : Admits last parts) (h : Unfolded parts) :
    (foldBehind last parts).IsChain Follows := by
  induction parts generalizing last with
  | nil => exact List.isChain_singleton last
  | cons part parts ih =>
    rw [foldBehind]
    split
    · rename_i hempty
      -- the literal behind the part is folded, so none is the next one
      refine ih (by simpa using hlast) (fun next hnext hliteral => ?_) h.tail
      cases part with
      | placeholder place => simp [isEmptyText] at hempty
      | literal text =>
        obtain ⟨place, hplace, -⟩ := h.admits next hnext hliteral
        cases hplace
    · rename_i hpart
      rw [Bool.not_eq_true] at hpart
      refine List.isChain_cons.2 ⟨fun next hnext => ?_, ih hpart h.admits h.tail⟩
      obtain ⟨spaced, hhead⟩ := head?_foldBehind part parts
      obtain rfl := Option.some.inj (hhead.symm.trans hnext)
      cases part with
      | literal text =>
        obtain ⟨place, rfl, hafter⟩ := hadmits _ rfl trivial
        exact hafter
      | placeholder place =>
        have hbefore := (h.places place List.mem_cons_self).1
        cases last <;> simp [Follows, addSpaces, hbefore]

theorem follows_foldEmptyFrom {parts : List Part} (h : Unfolded parts) (pending : Bool) :
    (foldEmptyFrom pending parts).IsChain Follows := by
  induction parts generalizing pending with
  | nil => exact List.IsChain.nil
  | cons part parts ih =>
    rw [foldEmptyFrom]
    split
    · exact ih h.tail _
    · rename_i hpart
      refine follows_foldBehind (by simpa using hpart) (fun next hnext hliteral => ?_) h.tail
      obtain ⟨place, rfl, hafter⟩ := h.admits next hnext hliteral
      exact ⟨_, rfl, by simpa using hafter⟩

/-- Folding arranges parts as they are read. -/
theorem arranged_foldEmpty {parts : List Part} (h : Unfolded parts) :
    Arranged (foldEmpty parts) :=
  ⟨follows_foldEmptyFrom h false, fun _ => not_isEmptyText_of_mem_foldEmpty⟩

/-! ### Parts without spaces -/

/-- The part without the spaces around it. -/
def bare : Part → Part
  | literal text => literal { text := text.text }
  | placeholder place => placeholder { place with spaceBefore := false, spaceAfter := false }

@[simp] theorem bare_addSpaces (part : Part) (before after : Bool) :
    (part.addSpaces before after).bare = part.bare := by
  cases part <;> rfl

theorem map_bare_foldBehind (last : Part) (parts : List Part) :
    (foldBehind last parts).map bare =
      last.bare :: (parts.filter fun part => !part.isEmptyText).map bare := by
  induction parts generalizing last with
  | nil => rfl
  | cons part parts ih =>
    rw [foldBehind]
    split
    · rename_i hempty
      rw [ih, bare_addSpaces, List.filter_cons_of_neg (by simp [hempty])]
    · rename_i hpart
      rw [List.map_cons, ih, List.filter_cons_of_pos (by simpa using hpart), List.map_cons]

/-- Up to spaces, folding drops the empty literals. -/
theorem map_bare_foldEmpty (parts : List Part) :
    (foldEmpty parts).map bare = (parts.filter fun part => !part.isEmptyText).map bare := by
  suffices h : ∀ pending, (foldEmptyFrom pending parts).map bare =
      (parts.filter fun part => !part.isEmptyText).map bare from h false
  induction parts with
  | nil => exact fun _ => rfl
  | cons part parts ih =>
    intro pending
    rw [foldEmptyFrom]
    split
    · rename_i hempty
      rw [ih, List.filter_cons_of_neg (by simp [hempty])]
    · rename_i hpart
      rw [map_bare_foldBehind, bare_addSpaces, List.filter_cons_of_pos (by simpa using hpart),
        List.map_cons]

end Part

end Phrasebook
