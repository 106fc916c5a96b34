import Mathlib.Data.List.Infix
import Mathlib.Tactic.MkIffOfInductiveProp
import Phrasebook.Template.SyntaxError

/-! # What an excerpt shows

    A window is a text with at most a given number of characters, of which at most a given number
    are line feeds. What is shown ahead of a place is described by its beginnings: they are exactly
    the windows that the text begins with (`prefix_excerptAhead_iff`). What is shown in front of the
    place is described by its ends in the same way, since a window read backwards is a window.

    So an excerpt is the longest window on each side of the place (`excerpt_eq_iff`). -/

namespace Phrasebook

/-! ## Windows -/

/-- What may be shown on one side of a place. -/
@[mk_iff]
structure Window (feeds limit : Nat) (cs : List Char) : Prop where
  /-- It has at most `limit` characters. -/
  length_le : cs.length ≤ limit
  /-- At most `feeds` of them are line feeds. -/
  feeds_le : cs.count '\n' ≤ feeds

variable {feeds limit : Nat} {c : Char} {cs ds : List Char}

@[simp] theorem window_nil : Window feeds limit [] := by
  simp [window_iff]

theorem eq_nil_of_window_zero (h : Window feeds 0 cs) : cs = [] :=
  List.eq_nil_of_length_eq_zero (Nat.le_zero.1 h.length_le)

theorem not_window_feed : ¬ Window 0 limit ('\n' :: cs) := by
  simp [window_iff]

/-- A line feed in front counts as a character and as a line feed. -/
theorem window_feed_iff : Window (feeds + 1) (limit + 1) ('\n' :: cs) ↔ Window feeds limit cs := by
  simp [window_iff]

/-- Any other character in front counts as a character only. -/
theorem window_cons_iff (h : c ≠ '\n') :
    Window feeds (limit + 1) (c :: cs) ↔ Window feeds limit cs := by
  simp [window_iff, List.count_cons_of_ne h]

theorem window_reverse_iff : Window feeds limit cs.reverse ↔ Window feeds limit cs := by
  simp [window_iff]

/-! ## The two sides -/

/-- Nothing is shown where only the empty window begins. -/
theorem prefix_nil_iff_window (hnil : ds <+: cs → Window feeds limit ds → ds = []) :
    ds <+: [] ↔ ds <+: cs ∧ Window feeds limit ds := by
  rw [List.prefix_nil]
  constructor
  · rintro rfl
    exact ⟨List.nil_prefix, window_nil⟩
  · intro h
    exact hnil h.1 h.2

/-- A character is shown where windows begin with it. Behind it, they have the allowances that it
    leaves. -/
theorem prefix_cons_iff_window {feeds' limit' : Nat} {shown : List Char}
    (hcons : ∀ es, Window feeds' limit' (c :: es) ↔ Window feeds limit es)
    (hshown : ∀ es, es <+: shown ↔ es <+: cs ∧ Window feeds limit es) :
    ds <+: c :: shown ↔ ds <+: c :: cs ∧ Window feeds' limit' ds := by
  cases ds with
  | nil => simp
  | cons d ds =>
    rw [List.cons_prefix_cons, List.cons_prefix_cons, and_assoc]
    apply and_congr_right
    intro hd
    subst hd
    rw [hshown, hcons]

/-- The beginnings of what is shown ahead are the windows that the text begins with. -/
theorem prefix_excerptAhead_iff :
    ds <+: excerptAhead feeds limit cs ↔ ds <+: cs ∧ Window feeds limit ds := by
  -- along the text, with what the characters passed so far have left of both allowances
  fun_induction excerptAhead feeds limit cs generalizing ds with
  | case1 feeds cs =>
    apply prefix_nil_iff_window
    intro _ hwindow
    exact eq_nil_of_window_zero hwindow
  | case2 limit feeds =>
    apply prefix_nil_iff_window
    intro hprefix _
    exact List.prefix_nil.1 hprefix
  | case3 limit cs =>
    -- a line feed for which there is no allowance left
    apply prefix_nil_iff_window
    intro hprefix hwindow
    cases ds with
    | nil => rfl
    | cons d ds =>
      obtain ⟨rfl, _⟩ := List.cons_prefix_cons.1 hprefix
      exact absurd hwindow not_window_feed
  | case4 limit cs feeds ih =>
    exact prefix_cons_iff_window (fun _ => window_feed_iff) (fun _ => ih)
  | case5 feeds limit c cs hc ih =>
    exact prefix_cons_iff_window (fun _ => window_cons_iff hc) (fun _ => ih)

/-- The ends of what is shown in front are the windows that the text ends with. -/
theorem suffix_excerptAhead_reverse_iff :
    ds <:+ (excerptAhead feeds limit cs.reverse).reverse ↔ ds <:+ cs ∧ Window feeds limit ds := by
  rw [← List.reverse_prefix, List.reverse_reverse, prefix_excerptAhead_iff, List.reverse_prefix,
    window_reverse_iff]

/-! ## The longest windows -/

/-- A text with a property that nothing longer has. -/
structure Longest (P : List Char → Prop) (cs : List Char) : Prop where
  /-- It has the property. -/
  holds : P cs
  /-- Whatever else has it is no longer. -/
  length_le : ∀ ds, P ds → ds.length ≤ cs.length

/-- If all that has the property is part of a text that has it, this is the longest, and there is
    no other. -/
theorem eq_iff_longest {P : List Char → Prop} {shown : List Char} (hshown : P shown)
    (hpart : ∀ ds, P ds → ds.Sublist shown) : shown = cs ↔ Longest P cs := by
  constructor
  · rintro rfl
    refine ⟨hshown, ?_⟩
    intro ds hds
    exact (hpart ds hds).length_le
  · intro hlongest
    have hle : shown.length ≤ cs.length := hlongest.length_le shown hshown
    exact ((hpart cs hlongest.holds).eq_of_length_le hle).symm

/-- An excerpt shows the longest window in front of the place where the error starts and the longest
    one from there on, each with at most one line feed. A place behind the end counts as the end. -/
theorem excerpt_eq_iff (source : List Char) (error : SyntaxError) (limit : Nat)
    (before after : List Char) :
    excerpt source error.span.start limit = (before, after) ↔
      Longest (fun cs => cs <:+ source.take (min error.span.start source.length) ∧
        Window 1 limit cs) before ∧
      Longest (fun cs => cs <+: source.drop (min error.span.start source.length) ∧
        Window 1 limit cs) after := by
  rw [excerpt, Prod.mk.injEq, ← List.take_eq_take_min, ← List.drop_eq_drop_min]
  apply and_congr
  · apply eq_iff_longest (suffix_excerptAhead_reverse_iff.1 List.suffix_rfl)
    intro ds hds
    exact (suffix_excerptAhead_reverse_iff.2 hds).sublist
  · apply eq_iff_longest (prefix_excerptAhead_iff.1 List.prefix_rfl)
    intro ds hds
    exact (prefix_excerptAhead_iff.2 hds).sublist

/-- Of the line feeds around the place, one is shown on each side. -/
example : excerpt "one\ntwo\nand %\x7b,\x7d\nfour\nfive".toList 14 40 =
    ("two\nand %\x7b".toList, ",\x7d\nfour".toList) := by decide

end Phrasebook
