import Phrasebook.Proofs.Text.Trimming

/-! # Fragments joined in groups

    Two fragments can be glued into one (`Fragment.glue`), and a joiner does not tell whether it is
    given the two or the one. So whatever a list of fragments does to a joiner, a single fragment
    does (`Joiner.addAll_eq_add`), and that is the one the joined text of the list is made of as
    long as no text has spaces around it (`Joiner.add_toSpaced`): fragments may be joined in groups,
    and the groups joined again.

    `Fragment.Spells` says which text fragments are joined to, without a joiner. -/

namespace Phrasebook

namespace Fragment

/-! ### Two fragments as one -/

/-- A space belongs in front of the fragment or behind it. -/
def flagged (f : Fragment) : Bool := f.spaceBefore || f.spaceAfter

/-- Two fragments as one. The flags of a fragment without text go to the other one. -/
def glue (f g : Fragment) : Fragment :=
  if f.isEmpty then g.withSpaces f.flagged false
  else if g.isEmpty then f.withSpaces false g.flagged
  else
    ⟨f.text ++ (if f.spaceAfter || g.spaceBefore then " " else "") ++ g.text, f.spaceBefore,
      g.spaceAfter⟩

/-- All fragments as one. -/
def glueAll (fs : List Fragment) : Fragment := fs.foldr glue empty

variable {f g : Fragment} {fs gs : List Fragment}

theorem withSpaces_withSpaces (f : Fragment) (before after before' after' : Bool) :
    (f.withSpaces before after).withSpaces before' after' =
      f.withSpaces (before || before') (after || after') := by
  simp [withSpaces, Bool.or_assoc]

theorem glue_of_isEmpty (h : f.isEmpty = true) : f.glue g = g.withSpaces f.flagged false := by
  rw [glue, if_pos h]

theorem glue_of_isEmpty_right (h : f.isEmpty = false) (hg : g.isEmpty = true) :
    f.glue g = f.withSpaces false g.flagged := by
  rw [glue, if_neg (by simp [h]), if_pos hg]

theorem glue_of_not_isEmpty (h : f.isEmpty = false) (hg : g.isEmpty = false) :
    f.glue g =
      ⟨f.text ++ (if f.spaceAfter || g.spaceBefore then " " else "") ++ g.text, f.spaceBefore,
        g.spaceAfter⟩ := by
  rw [glue, if_neg (by simp [h]), if_neg (by simp [hg])]

theorem toList_ne_nil (h : f.isEmpty = false) : f.text.toList ≠ [] := by
  intro hnil
  rw [isEmpty, String.toList_eq_nil_iff.1 hnil] at h
  cases h

theorem isEmpty_glue_left (h : f.isEmpty = false) : (f.glue g).isEmpty = false := by
  by_cases hg : g.isEmpty = true
  · rw [glue_of_isEmpty_right h hg]
    exact h
  · rw [Bool.not_eq_true] at hg
    have hne : f.text ≠ "" := by simpa [isEmpty] using h
    rw [glue_of_not_isEmpty h hg]
    simp [isEmpty, hne]

theorem unspaced_glue (hf : Unspaced f.text) (hg : Unspaced g.text) :
    Unspaced (f.glue g).text := by
  by_cases hempty : f.isEmpty = true
  · rw [glue_of_isEmpty hempty]
    exact hg
  · rw [Bool.not_eq_true] at hempty
    by_cases hempty' : g.isEmpty = true
    · rw [glue_of_isEmpty_right hempty hempty']
      exact hf
    · rw [Bool.not_eq_true] at hempty'
      rw [glue_of_not_isEmpty hempty hempty']
      unfold Unspaced
      rw [String.toList_append, String.toList_append]
      exact hf.append hg (toList_ne_nil hempty) (toList_ne_nil hempty')

theorem unspaced_glueAll (h : ∀ f ∈ fs, Unspaced f.text) : Unspaced (glueAll fs).text := by
  induction fs with
  | nil => exact unspaced_empty
  | cons f fs ih =>
    have hrest := ih fun g hg => h g (List.mem_cons_of_mem f hg)
    exact unspaced_glue (h f List.mem_cons_self) hrest

end Fragment

/-! ### What fragments do to a joiner -/

namespace Joiner

variable {j : Joiner} {f g : Fragment} {fs gs : List Fragment}

theorem add_of_isEmpty (h : f.isEmpty = true) :
    j.add f = { j with pending := j.pending || f.flagged } := by
  rw [add]
  simp only [h, if_true, Fragment.flagged, Bool.or_assoc]

theorem add_of_not_isEmpty (h : f.isEmpty = false) :
    j.add f = ⟨j.joined ++ (if j.pending || f.spaceBefore then " " else "") ++ f.text,
      f.spaceAfter⟩ := by
  rw [add]
  simp only [h, Bool.false_eq_true, if_false]

@[simp] theorem add_empty (j : Joiner) : j.add .empty = j := by
  rw [add_of_isEmpty rfl]
  simp [Fragment.flagged, Fragment.empty]

/-- A joiner does not tell two fragments from what they are glued to. -/
theorem add_glue (j : Joiner) (f g : Fragment) : j.add (f.glue g) = (j.add f).add g := by
  by_cases hf : f.isEmpty = true
  · rw [Fragment.glue_of_isEmpty hf, add_of_isEmpty hf]
    by_cases hg : g.isEmpty = true
    · rw [add_of_isEmpty (show (g.withSpaces f.flagged false).isEmpty = true from hg),
        add_of_isEmpty hg]
      simp [Fragment.flagged, Fragment.withSpaces, Bool.or_comm, Bool.or_left_comm]
    · rw [Bool.not_eq_true] at hg
      have hflags : (j.pending || (g.spaceBefore || f.flagged)) =
          (j.pending || f.flagged || g.spaceBefore) := by
        rw [Bool.or_assoc, Bool.or_comm f.flagged]
      rw [add_of_not_isEmpty (show (g.withSpaces f.flagged false).isEmpty = false from hg),
        add_of_not_isEmpty hg]
      simp only [Fragment.withSpaces, Bool.or_false, hflags]
  · rw [Bool.not_eq_true] at hf
    by_cases hg : g.isEmpty = true
    · rw [Fragment.glue_of_isEmpty_right hf hg, add_of_isEmpty hg, add_of_not_isEmpty hf,
        add_of_not_isEmpty (show (f.withSpaces false g.flagged).isEmpty = false from hf)]
      simp [Fragment.withSpaces]
    · rw [Bool.not_eq_true] at hg
      have hglued : (f.glue g).isEmpty = false := Fragment.isEmpty_glue_left hf
      rw [add_of_not_isEmpty hglued, Fragment.glue_of_not_isEmpty hf hg, add_of_not_isEmpty hf,
        add_of_not_isEmpty hg]
      simp [String.append_assoc]

/-- A fragment without text leaves its flags in front of what comes behind it. -/
theorem add_withSpaces_before (he : g.isEmpty = true) :
    j.add (f.withSpaces g.flagged false) = (j.add g).add f := by
  rw [← add_glue, Fragment.glue_of_isEmpty he]

/-- A fragment without text leaves its flags behind what is in front of it. -/
theorem add_withSpaces_behind (he : g.isEmpty = true) :
    j.add (f.withSpaces false g.flagged) = (j.add f).add g := by
  by_cases hf : f.isEmpty = true
  · rw [add_of_isEmpty he, add_of_isEmpty hf,
      add_of_isEmpty (show (f.withSpaces false g.flagged).isEmpty = true from hf)]
    simp [Fragment.flagged, Fragment.withSpaces, Bool.or_assoc]
  · rw [← add_glue, Fragment.glue_of_isEmpty_right (by simpa using hf) he]

/-- What fragments do to a joiner, one fragment does. -/
theorem addAll_eq_add (j : Joiner) (fs : List Fragment) :
    j.addAll fs = j.add (Fragment.glueAll fs) := by
  induction fs generalizing j with
  | nil => exact (add_empty j).symm
  | cons f fs ih =>
    calc j.addAll (f :: fs) = (j.add f).addAll fs := rfl
      _ = (j.add f).add (Fragment.glueAll fs) := ih (j.add f)
      _ = j.add (f.glue (Fragment.glueAll fs)) := (add_glue j f _).symm

end Joiner

/-! ### The joined text -/

theorem trimSpaces_spaceIf {text : String} (h : Unspaced text) (before : Bool) :
    trimSpaces ((if before then " " else "") ++ text) = text := by
  cases before with
  | false =>
    rw [if_neg Bool.false_ne_true, String.empty_append]
    exact h.trimSpaces_eq
  | true =>
    have hdrop : strip isSpaceChar (' ' :: text.toList) = strip isSpaceChar text.toList := by
      rw [strip, strip, List.dropWhile_cons_of_pos isSpaceChar_space]
    rw [if_pos rfl, trimSpaces, String.toList_append]
    show String.ofList (strip isSpaceChar (' ' :: text.toList)) = text
    rw [hdrop]
    exact h.trimSpaces_eq

/-- A space in front of a text without spaces around it becomes a flag. -/
theorem Fragment.spaced_spaceIf {text : String} (h : Unspaced text) (hne : text ≠ "")
    (before : Bool) : spaced ((if before then " " else "") ++ text) = ⟨text, before, false⟩ := by
  have hnil : text.toList ≠ [] := fun hnil => hne (String.toList_eq_nil_iff.1 hnil)
  have hafter : (((if before then " " else "") ++ text).toList.getLast?.map isSpaceChar).getD
      false = false := by
    have hlast := List.getLast?_eq_some_getLast hnil
    rw [String.toList_append, List.getLast?_append, hlast]
    exact h.last _ hlast
  have hbefore : (((if before then " " else "") ++ text).toList.head?.map isSpaceChar).getD
      false = before := by
    cases before with
    | true => rw [if_pos rfl, String.toList_append]; rfl
    | false =>
      obtain ⟨c, cs, hcs⟩ := List.exists_cons_of_ne_nil hnil
      rw [if_neg Bool.false_ne_true, String.empty_append, hcs]
      exact h.first c (by rw [hcs]; rfl)
  unfold spaced
  rw [trimSpaces_spaceIf h, hafter, hbefore]
  exact if_neg (by simpa using hne)

namespace Joiner

variable {f : Fragment} {fs : List Fragment}

/-- A joiner that was given one fragment gives it back; around no text, all flags are behind it. -/
theorem toSpaced_add (h : Unspaced f.text) :
    (({} : Joiner).add f).toSpaced = if f.isEmpty then ⟨"", false, f.flagged⟩ else f := by
  by_cases hf : f.isEmpty = true
  · rw [if_pos hf, add_of_isEmpty hf]
    show Fragment.withSpaces false (false || f.flagged) ⟨"", false, false⟩ = _
    simp [Fragment.withSpaces]
  · rw [Bool.not_eq_true] at hf
    have hne : f.text ≠ "" := by simpa [Fragment.isEmpty] using hf
    rw [if_neg (by simp [hf]), add_of_not_isEmpty hf]
    show (Fragment.spaced ("" ++ (if f.spaceBefore then " " else "") ++ f.text)).withSpaces false
      f.spaceAfter = f
    rw [String.empty_append, Fragment.spaced_spaceIf h hne]
    simp [Fragment.withSpaces]

/-- The joined text of fragments stands for them. -/
theorem add_toSpaced (j : Joiner) (h : ∀ f ∈ fs, Unspaced f.text) :
    j.add (addAll {} fs).toSpaced = j.addAll fs := by
  rw [addAll_eq_add {}, addAll_eq_add j, toSpaced_add (Fragment.unspaced_glueAll h)]
  by_cases hempty : (Fragment.glueAll fs).isEmpty = true
  · rw [if_pos hempty, add_of_isEmpty hempty, add_of_isEmpty rfl]
    simp [Fragment.flagged]
  · rw [if_neg hempty]

end Joiner

/-! ### What fragments spell -/

namespace Fragment

/-- The text that fragments are joined to: their texts in order, with a space between two
    neighbours exactly if the left one has a flag behind it, the right one has a flag in front of
    it, or a fragment without text in the gap between them has any flag. -/
inductive Spells : List Fragment → String → Prop
  /-- Nothing. -/
  | nothing : Spells [] ""
  /-- A fragment without text in front of all texts. -/
  | skip {f : Fragment} {fs : List Fragment} {text : String} (hf : f.isEmpty = true)
      (rest : Spells fs text) : Spells (f :: fs) text
  /-- The last text. -/
  | last {f : Fragment} {gap : List Fragment} (hf : f.isEmpty = false)
      (hgap : ∀ e ∈ gap, e.isEmpty = true) : Spells (f :: gap) f.text
  /-- A text, and its neighbour behind a gap. -/
  | next {f g : Fragment} {gap fs : List Fragment} {text : String} (hf : f.isEmpty = false)
      (hgap : ∀ e ∈ gap, e.isEmpty = true) (hg : g.isEmpty = false)
      (rest : Spells (g :: fs) text) :
      Spells (f :: (gap ++ g :: fs))
        (f.text ++ (if f.spaceAfter || gap.any flagged || g.spaceBefore then " " else "") ++ text)

variable {f g : Fragment} {fs gap : List Fragment} {text : String}

theorem text_glue_of_isEmpty_right (hg : g.isEmpty = true) : (f.glue g).text = f.text := by
  by_cases hf : f.isEmpty = true
  · have hnone : f.text = "" := String.isEmpty_iff.1 hf
    rw [glue_of_isEmpty hf, hnone]
    exact String.isEmpty_iff.1 hg
  · rw [glue_of_isEmpty_right (by simpa using hf) hg]
    rfl

theorem isEmpty_glueAll (hgap : ∀ e ∈ gap, e.isEmpty = true) : (glueAll gap).isEmpty = true := by
  induction gap with
  | nil => rfl
  | cons e gap ih =>
    have hrest := ih fun e' he => hgap e' (List.mem_cons_of_mem e he)
    show (e.glue (glueAll gap)).isEmpty = true
    rw [isEmpty, text_glue_of_isEmpty_right hrest]
    exact hgap e List.mem_cons_self

/-- Fragments without text leave their flags in front of what comes behind them. -/
theorem glueAll_append (hgap : ∀ e ∈ gap, e.isEmpty = true) (fs : List Fragment) :
    glueAll (gap ++ fs) = (glueAll fs).withSpaces (gap.any flagged) false := by
  induction gap with
  | nil => simp [withSpaces]
  | cons e gap ih =>
    have hrest := ih fun e' he => hgap e' (List.mem_cons_of_mem e he)
    calc glueAll (e :: gap ++ fs) = e.glue (glueAll (gap ++ fs)) := rfl
      _ = e.glue ((glueAll fs).withSpaces (gap.any flagged) false) := by rw [hrest]
      _ = ((glueAll fs).withSpaces (gap.any flagged) false).withSpaces e.flagged false :=
        glue_of_isEmpty (hgap e List.mem_cons_self)
      _ = (glueAll fs).withSpaces ((e :: gap).any flagged) false := by
        rw [withSpaces_withSpaces, List.any_cons, Bool.or_comm e.flagged, Bool.or_false]

theorem spaceBefore_glue (hf : f.isEmpty = false) : (f.glue g).spaceBefore = f.spaceBefore := by
  by_cases hg : g.isEmpty = true
  · rw [glue_of_isEmpty_right hf hg]
    exact Bool.or_false _
  · rw [glue_of_not_isEmpty hf (by simpa using hg)]

/-- A text, a gap and a neighbour. -/
theorem text_glueAll_neighbours (hf : f.isEmpty = false) (hgap : ∀ e ∈ gap, e.isEmpty = true)
    (hg : g.isEmpty = false) :
    (glueAll (f :: (gap ++ g :: fs))).text =
      f.text ++ (if f.spaceAfter || gap.any flagged || g.spaceBefore then " " else "") ++
        (glueAll (g :: fs)).text := by
  have hrest : ((glueAll (g :: fs)).withSpaces (gap.any flagged) false).isEmpty = false :=
    isEmpty_glue_left hg
  have hbefore : (glueAll (g :: fs)).spaceBefore = g.spaceBefore := spaceBefore_glue hg
  have hflags : (f.spaceAfter || (g.spaceBefore || gap.any flagged)) =
      (f.spaceAfter || gap.any flagged || g.spaceBefore) := by
    rw [Bool.or_assoc, Bool.or_comm g.spaceBefore]
  show (f.glue (glueAll (gap ++ g :: fs))).text = _
  rw [glueAll_append hgap, glue_of_not_isEmpty hf hrest]
  simp only [withSpaces, hbefore, hflags]

theorem Spells.text_glueAll (h : Spells fs text) : (glueAll fs).text = text := by
  induction h with
  | nothing => rfl
  | @skip f fs text hf rest ih =>
    show (f.glue (glueAll fs)).text = text
    rw [glue_of_isEmpty hf]
    exact ih
  | last hf hgap => exact text_glue_of_isEmpty_right (isEmpty_glueAll hgap)
  | next hf hgap hg rest ih => rw [text_glueAll_neighbours hf hgap hg, ih]

/-- Either there is no text, or a first one. -/
theorem Spells.exists_first (h : Spells fs text) :
    (∀ e ∈ fs, e.isEmpty = true) ∨ ∃ gap g rest, fs = gap ++ g :: rest ∧
      (∀ e ∈ gap, e.isEmpty = true) ∧ g.isEmpty = false ∧ Spells (g :: rest) text := by
  induction h with
  | nothing => left; intro e he; cases he
  | @skip f fs text hf rest ih =>
    rcases ih with hnone | ⟨gap, g, behind, rfl, hgap, hg, hspells⟩
    · left
      exact List.forall_mem_cons.2 ⟨hf, hnone⟩
    · right
      exact ⟨f :: gap, g, behind, rfl, List.forall_mem_cons.2 ⟨hf, hgap⟩, hg, hspells⟩
  | @last f gap hf hgap =>
    right
    exact ⟨[], f, gap, rfl, by simp, hf, .last hf hgap⟩
  | @next f g gap fs text hf hgap hg rest ih =>
    right
    exact ⟨[], f, gap ++ g :: fs, rfl, by simp, hf, .next hf hgap hg rest⟩

theorem exists_spells (fs : List Fragment) : ∃ text, Spells fs text := by
  induction fs with
  | nil => exact ⟨"", .nothing⟩
  | cons f fs ih =>
    obtain ⟨text, h⟩ := ih
    by_cases hf : f.isEmpty = true
    · exact ⟨text, .skip hf h⟩
    · rw [Bool.not_eq_true] at hf
      rcases h.exists_first with hnone | ⟨gap, g, rest, rfl, hgap, hg, hspells⟩
      · exact ⟨f.text, .last hf hnone⟩
      · exact ⟨_, .next hf hgap hg hspells⟩

/-- Fragments spell one text, that of all of them as one. -/
theorem spells_iff : Spells fs text ↔ (glueAll fs).text = text := by
  constructor
  · exact Spells.text_glueAll
  · intro h
    obtain ⟨other, hother⟩ := exists_spells fs
    rw [← h, hother.text_glueAll]
    exact hother

end Fragment

theorem Joiner.text_toSpaced_addAll {fs : List Fragment} (h : ∀ f ∈ fs, Unspaced f.text) :
    (addAll {} fs).toSpaced.text = (Fragment.glueAll fs).text := by
  rw [addAll_eq_add, toSpaced_add (Fragment.unspaced_glueAll h)]
  by_cases hempty : (Fragment.glueAll fs).isEmpty = true
  · rw [if_pos hempty]
    exact (String.isEmpty_iff.1 hempty).symm
  · rw [if_neg hempty]

/-- Fragments without spaces around their texts may be joined in groups, and are joined to the text
    that they spell. -/
theorem Joiner.toSpaced_append (xs ys : List Fragment) (h : ∀ f ∈ xs ++ ys, Unspaced f.text) :
    (addAll {} (xs ++ ys)).toSpaced =
        (addAll {} [(addAll {} xs).toSpaced, (addAll {} ys).toSpaced]).toSpaced ∧
      ∀ text, Fragment.Spells (xs ++ ys) text ↔ (addAll {} (xs ++ ys)).toSpaced.text = text := by
  obtain ⟨hxs, hys⟩ := List.forall_mem_append.1 h
  constructor
  · have hjoined : addAll {} [(addAll {} xs).toSpaced, (addAll {} ys).toSpaced] =
        addAll {} (xs ++ ys) := by
      rw [addAll_cons, addAll_cons, addAll_nil, add_toSpaced {} hxs, add_toSpaced _ hys,
        addAll_append]
    rw [hjoined]
  · intro text
    rw [text_toSpaced_addAll h]
    exact Fragment.spells_iff

/-- A group that ends in a flag, and one that begins with one and with a line break. -/
theorem Joiner.toSpaced_append_lines :
    let xs : List Fragment := [⟨"", true, false⟩, ⟨"a", false, false⟩, ⟨"", false, true⟩]
    let ys : List Fragment := [⟨"", false, false⟩, ⟨"\nb", false, false⟩, ⟨"c", false, true⟩]
    (∀ f ∈ xs ++ ys, Unspaced f.text) ∧
      (addAll {} [(addAll {} xs).toSpaced, (addAll {} ys).toSpaced]).toSpaced =
        ⟨"a \nbc", true, true⟩ ∧
      Fragment.Spells (xs ++ ys) "a \nbc" := by
  intro xs ys
  have hall : ∀ f ∈ xs ++ ys, f.text.toList.all (fun c => !isSpaceChar c) = true := by decide
  have h : ∀ f ∈ xs ++ ys, Unspaced f.text := by
    intro f hf
    have hchars : ∀ c ∈ f.text.toList, isSpaceChar c = false := by
      intro c hc
      simpa using List.all_eq_true.1 (hall f hf) c hc
    exact ⟨fun c hc => hchars c (List.mem_of_mem_head? hc),
      fun c hc => hchars c (List.mem_of_getLast? hc)⟩
  have hjoined : (addAll {} (xs ++ ys)).toSpaced = ⟨"a \nbc", true, true⟩ := by decide
  obtain ⟨hgroups, hspells⟩ := Joiner.toSpaced_append xs ys h
  exact ⟨h, hgroups ▸ hjoined, (hspells _).2 (by rw [hjoined])⟩

end Phrasebook
