import Phrasebook.Proofs.Sharing.Calls
import Phrasebook.Proofs.Template.RoundTrip

/-! # The normal form of parsed messages

    What a message of a template looks like, without reference to how it is read: how many parts it
    has, where texts and spaces stand, and what is among the settings of its placeholders
    (`Message.NormalForm`). It is put together from what is known of messages that can be printed,
    where parts are arranged, and of strings as templates have them.

    A message in normal form is left alone when its parts are folded once more
    (`Message.NormalForm.ofParts_parts`). -/

namespace Phrasebook

/-! ### Normal forms -/

/-- Settings as they stand in a parsed message. -/
structure Settings.NormalForm (settings : Settings SettingValue) : Prop where
  /-- No key repeats. -/
  distinct : settings.keys.Nodup
  /-- The keywords are compared by equality and its contrary only. -/
  relations : ∀ relation, .null relation ∈ settings.keys ∨ .empty relation ∈ settings.keys →
    relation = .eq ∨ relation = .ne
  /-- No value is a message. -/
  noMessage : ∀ inner, .message inner ∉ settings.values
  /-- A string means what its source stands for. -/
  strings : ∀ quoted, .string quoted ∈ settings.values → quoted.text = unescape quoted.source

/-- A message as it is parsed. -/
structure Message.NormalForm (message : Message) : Prop where
  /-- It is empty, one part, or several parts. -/
  shape : message = .empty ∨ (∃ part, message = .single part) ∨
    ∃ parts, message = .multiple parts ∧ 2 ≤ parts.length
  /-- No text is empty. -/
  nonempty : ∀ text, .literal text ∈ message.parts → text.text ≠ ""
  /-- No text stands behind another one. -/
  apart : ∀ front first second behind,
    message.parts ≠ front ++ .literal first :: .literal second :: behind
  /-- A placeholder has a space in front of it only if nothing else stands there. -/
  spaceBefore : ∀ front place behind, message.parts = front ++ .placeholder place :: behind →
    place.spaceBefore = true → front = []
  /-- A placeholder has a space behind it only if nothing or another placeholder stands there. -/
  spaceAfter : ∀ front place behind, message.parts = front ++ .placeholder place :: behind →
    place.spaceAfter = true → behind = [] ∨ ∃ next rest, behind = .placeholder next :: rest
  /-- The settings of its placeholders are in normal form. -/
  settings : ∀ place, .placeholder place ∈ message.parts → place.settings.NormalForm

/-! ### Settings -/

/-- Settings that can be printed and whose strings are faithful are in normal form. -/
theorem Settings.Printable.normalForm {settings : Settings SettingValue} (h : settings.Printable)
    (hw : settings.Written) : settings.NormalForm := by
  constructor
  · exact h.distinct
  · rintro relation (hnull | hempty)
    · exact h.keys _ hnull
    · exact h.keys _ hempty
  · intro inner hinner
    exact h.values _ hinner
  · intro quoted hquoted
    exact (hw.plain _ hquoted).faithful quoted rfl

/-! ### Parts -/

namespace Part.Arranged

variable {parts front behind : List Part}

/-- Neighbours may stand behind each other. -/
theorem follows_of_eq {first second : Part} (h : Arranged parts)
    (hparts : parts = front ++ first :: second :: behind) : Follows first second := by
  have hchain := h.follows
  rw [hparts] at hchain
  exact (List.isChain_append_cons_cons.1 hchain).2.1

theorem eq_nil_of_spaceBefore {place : Placeholder} (h : Arranged parts)
    (hparts : parts = front ++ .placeholder place :: behind) (hspace : place.spaceBefore = true) :
    front = [] := by
  rcases List.eq_nil_or_concat front with hnil | ⟨before, part, rfl⟩
  · exact hnil
  · -- whatever stands in front of the placeholder, the space is not kept at it
    have hsplit : parts = before ++ part :: .placeholder place :: behind := by
      rw [hparts, List.concat_eq_append, List.append_assoc, List.singleton_append]
    have hfollows := h.follows_of_eq hsplit
    cases part <;> exact absurd hspace (ne_true_of_eq_false hfollows)

theorem nil_or_placeholder_of_spaceAfter {place : Placeholder} (h : Arranged parts)
    (hparts : parts = front ++ .placeholder place :: behind) (hspace : place.spaceAfter = true) :
    behind = [] ∨ ∃ next rest, behind = .placeholder next :: rest := by
  match behind, hparts with
  | [], _ => exact .inl rfl
  | .placeholder next :: rest, _ => exact .inr ⟨next, rest, rfl⟩
  | .literal text :: rest, hparts =>
    exact absurd hspace (ne_true_of_eq_false (h.follows_of_eq hparts))

end Part.Arranged

/-! ### Messages -/

/-- A message that can be printed is in normal form if its settings are. -/
theorem Message.Printable.normalForm {message : Message} (h : message.Printable)
    (hs : ∀ place, .placeholder place ∈ message.parts → place.settings.Written) :
    message.NormalForm := by
  constructor
  · have hshape := h.ofParts
    cases message with
    | empty => exact .inl rfl
    | single part => exact .inr (.inl ⟨part, rfl⟩)
    | multiple parts => exact .inr (.inr ⟨parts, rfl, hshape⟩)
    | localized variants => exact absurd hshape id
    | coded code message => exact absurd hshape id
  · intro text ht hempty
    have hne : text.text.isEmpty = false := h.arranged.nonempty _ ht
    simp [hempty] at hne
  · intro front first second behind hparts
    exact h.arranged.follows_of_eq hparts
  · exact fun front place behind => h.arranged.eq_nil_of_spaceBefore
  · exact fun front place behind => h.arranged.nil_or_placeholder_of_spaceAfter
  · exact fun place hp => (h.places place hp).settings.normalForm (hs place hp)

theorem Template.normalForm_of_parse_ok {source : String} {message : Message}
    (h : parse source = .ok message) : message.NormalForm :=
  (printable_of_parse h).normalForm fun _ => written_of_parse h

/-! ### Folding again -/

theorem Part.foldBehind_of_forall {last : Part} {parts : List Part}
    (h : ∀ part ∈ parts, part.isEmptyText = false) : foldBehind last parts = last :: parts := by
  induction parts generalizing last with
  | nil => rfl
  | cons part parts ih =>
    obtain ⟨hpart, hparts⟩ := List.forall_mem_cons.1 h
    rw [foldBehind, if_neg (ne_true_of_eq_false hpart), ih hparts]

/-- Folding leaves parts alone if none of them is an empty text. -/
theorem Part.foldEmpty_of_forall {parts : List Part}
    (h : ∀ part ∈ parts, part.isEmptyText = false) : foldEmpty parts = parts := by
  cases parts with
  | nil => rfl
  | cons part parts =>
    obtain ⟨hpart, hparts⟩ := List.forall_mem_cons.1 h
    rw [foldEmpty, foldEmptyFrom, if_neg (ne_true_of_eq_false hpart), addSpaces_false,
      foldBehind_of_forall hparts]

/-- A message in normal form is the message of its parts. -/
theorem Message.NormalForm.ofParts_parts {message : Message} (h : message.NormalForm) :
    Message.ofParts message.parts = message := by
  have hfold : Part.foldEmpty message.parts = message.parts := by
    refine Part.foldEmpty_of_forall fun part hp => ?_
    cases part with
    | literal text => simpa [Part.isEmptyText] using h.nonempty text hp
    | placeholder place => rfl
  have hshape : message.OfParts := by
    rcases h.shape with rfl | ⟨part, rfl⟩ | ⟨parts, rfl, hlen⟩
    · trivial
    · trivial
    · exact hlen
  exact hshape.ofParts_eq hfold

/-! ### Parsing -/

namespace Template

/-- A template is parsed to a message in normal form, also by a pool that shares what it has seen in
    any calls before. -/
theorem normalForm_of_parse {source : String} {message : Message}
    (h : parse source = .ok message) :
    message.NormalForm ∧
      ∀ policy calls shared,
        ((Pool.parse source).run.run (Pool.after policy calls)).1 = .ok shared →
        shared.message.NormalForm := by
  refine ⟨normalForm_of_parse_ok h, fun policy calls shared hshared => ?_⟩
  have hsays : parse source = .ok shared.message :=
    (Pool.says_parse source).eq_ok (Pool.faithful_after policy calls) hshared
  exact normalForm_of_parse_ok hsays

/-- Texts on both sides of a placeholder, and a keyword among its keys. -/
theorem normalForm_of_parse_question :
    parse "Is %\x7bnull,choice,<5:\"it's\",<>null:true\x7d ?" = .ok keywordQuestion ∧
      keywordQuestion.NormalForm ∧
      ∀ policy calls shared,
        ((Pool.parse "Is %\x7bnull,choice,<5:\"it's\",<>null:true\x7d ?").run.run
          (Pool.after policy calls)).1 = .ok shared →
        shared.message.NormalForm := by
  have hcanonical := canonical_keywordQuestion
  have hparse : parse "Is %\x7bnull,choice,<5:\"it's\",<>null:true\x7d ?" =
      .ok keywordQuestion := by
    rw [← source_keywordQuestion]
    exact (parse_source_eq_iff hcanonical.printable hcanonical.faithful).2 hcanonical.settled
  exact ⟨hparse, normalForm_of_parse hparse⟩

end Template

end Phrasebook
