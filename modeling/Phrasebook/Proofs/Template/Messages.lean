import Phrasebook.Proofs.Message.Sameness
import Phrasebook.Proofs.Message.Settings
import Phrasebook.Proofs.Message.Tree
import Phrasebook.Proofs.Template.Parsing

/-! # Messages that templates are read as

    The message of a template has neither variants nor a code, and no message stands among its
    settings: values are truth values, integers and strings that are read only when they are needed.
    The text of such a string is what its source stands for. -/

namespace Phrasebook

/-! ### Folding adds spaces only -/

namespace Part

theorem addSpaces_addSpaces (part : Part) (before after before' after' : Bool) :
    (part.addSpaces before after).addSpaces before' after' =
      part.addSpaces (before || before') (after || after') := by
  cases part <;> simp [addSpaces, Bool.or_assoc]

/-- The part is one of the parts, with spaces added. -/
def Respaced (parts : List Part) (part : Part) : Prop :=
  ∃ original ∈ parts, ∃ before after, part = original.addSpaces before after

theorem respaced_of_mem {part : Part} {parts : List Part} (h : part ∈ parts) :
    Respaced parts part :=
  ⟨part, h, false, false, (addSpaces_false part).symm⟩

theorem Respaced.mono {part : Part} {parts more : List Part} (h : Respaced parts part)
    (hsub : parts ⊆ more) : Respaced more part := by
  obtain ⟨original, ho, hpart⟩ := h
  exact ⟨original, hsub ho, hpart⟩

theorem respaced_of_mem_foldBehind {all parts : List Part} {last part : Part}
    (hl : Respaced all last) (hsub : parts ⊆ all) (h : part ∈ foldBehind last parts) :
    Respaced all part := by
  induction parts generalizing last with
  | nil =>
    obtain rfl := List.mem_singleton.1 h
    exact hl
  | cons p ps ih =>
    obtain ⟨hp, hps⟩ := List.cons_subset.1 hsub
    simp only [foldBehind] at h
    split at h
    -- an empty literal leaves its space to the part in front of it
    · obtain ⟨original, ho, before, after, rfl⟩ := hl
      exact ih ⟨original, ho, _, _, addSpaces_addSpaces ..⟩ hps h
    · rcases List.mem_cons.1 h with rfl | h
      · exact hl
      · exact ih (respaced_of_mem hp) hps h

theorem respaced_of_mem_foldEmptyFrom {all parts : List Part} {pending : Bool} {part : Part}
    (hsub : parts ⊆ all) (h : part ∈ foldEmptyFrom pending parts) : Respaced all part := by
  induction parts generalizing pending with
  | nil => simp [foldEmptyFrom] at h
  | cons p ps ih =>
    obtain ⟨hp, hps⟩ := List.cons_subset.1 hsub
    simp only [foldEmptyFrom] at h
    split at h
    · exact ih hps h
    · exact respaced_of_mem_foldBehind ⟨p, hp, pending, false, rfl⟩ hps h

/-- Folding keeps parts up to spaces. -/
theorem respaced_of_mem_foldEmpty {parts : List Part} {part : Part} (h : part ∈ foldEmpty parts) :
    Respaced parts part :=
  respaced_of_mem_foldEmptyFrom (List.Subset.refl parts) h

/-- Spaces around a placeholder leave it as it is otherwise. -/
theorem Respaced.exists_place {parts : List Part} {place : Placeholder}
    (h : Respaced parts (.placeholder place)) :
    ∃ original, .placeholder original ∈ parts ∧ place.name = original.name ∧
      place.format = original.format ∧ place.settings = original.settings := by
  obtain ⟨original, ho, before, after, he⟩ := h
  cases original with
  | literal text => simp [addSpaces] at he
  | placeholder original =>
    obtain rfl := Part.placeholder.inj he
    exact ⟨original, ho, rfl, rfl, rfl⟩

/-- Spaces around a literal leave its text as it is. -/
theorem Respaced.exists_literal {parts : List Part} {text : Literal}
    (h : Respaced parts (.literal text)) :
    ∃ original, .literal original ∈ parts ∧ text.text = original.text := by
  obtain ⟨original, ho, before, after, he⟩ := h
  cases original with
  | placeholder place => simp [addSpaces] at he
  | literal original =>
    obtain rfl := Part.literal.inj he
    exact ⟨original, ho, rfl⟩

end Part

namespace Message

@[simp] theorem parts_ofParts (parts : List Part) :
    (ofParts parts).parts = Part.foldEmpty parts := by
  unfold ofParts
  split <;> rename_i h <;> simp [Message.parts, h]

/-- A message of parts has neither variants nor a code, and several parts are at least two. -/
theorem ofParts_cases (parts : List Part) :
    ofParts parts = .empty ∨ (∃ part, ofParts parts = .single part) ∨
      ∃ all, ofParts parts = .multiple all ∧ 2 ≤ all.length := by
  unfold ofParts
  split
  · exact .inl rfl
  · exact .inr (.inl ⟨_, rfl⟩)
  · rename_i hnil hsingle
    refine .inr (.inr ⟨_, rfl, ?_⟩)
    rcases hf : Part.foldEmpty parts with _ | ⟨part, _ | ⟨part', more⟩⟩
    · exact absurd hf hnil
    · exact absurd hf (hsingle part)
    · simp

end Message

/-! ### Values of trees -/

/-- The value of an entry. -/
def EntryTree.value : EntryTree → SettingValue
  | otherwise _ value => value.value
  | bare text => .string text.value
  | keyed _ _ value => value.value

theorem SettingsTree.exists_entry {tree : SettingsTree} {value : SettingValue}
    (h : value ∈ tree.settings.values) : ∃ entry ∈ tree.entries, value = entry.value := by
  revert value
  simp only [Settings.forall_mem_values, settings]
  constructor
  · intro keyed hk
    obtain ⟨entry, he, hk⟩ := List.mem_filterMap.1 hk
    refine ⟨entry, he, ?_⟩
    cases entry <;> simp [EntryTree.keyed?] at hk
    subst hk
    rfl
  · intro value hv
    obtain ⟨entry, he, hv⟩ := List.mem_filterMap.1 (List.mem_of_mem_head? hv)
    refine ⟨entry, he, ?_⟩
    cases entry <;> simp [EntryTree.otherwise?] at hv <;> subst hv <;> rfl

/-- A value that is no message; if it is a string, its text is what its source stands for. -/
structure SettingValue.Plain (value : SettingValue) : Prop where
  /-- It is no message. -/
  noMessage : value.message? = none
  /-- A string is faithful. -/
  faithful : ∀ quoted ∈ value.quoted?, quoted.Faithful

theorem QuotedTree.plain {tree : QuotedTree} (h : ∀ token ∈ tree.tokens, token.Faithful) :
    (SettingValue.string tree.value).Plain := by
  refine ⟨rfl, fun quoted hq => ?_⟩
  obtain rfl := Option.some.inj hq
  exact (h tree.content (by simp [tokens])).1 tree.source tree.content_kind

theorem ValueTree.plain {tree : ValueTree} (h : ∀ token ∈ tree.tokens, token.Faithful) :
    tree.value.Plain := by
  cases tree with
  | quoted text => exact QuotedTree.plain h
  | number token n kind => exact ⟨rfl, by simp [value, SettingValue.quoted?]⟩
  | bool token b kind => exact ⟨rfl, by simp [value, SettingValue.quoted?]⟩
  | word token kind =>
    refine ⟨rfl, fun quoted hq => ?_⟩
    obtain rfl := Option.some.inj hq
    exact (h token (by simp [tokens])).2 kind

theorem EntryTree.plain {tree : EntryTree} (h : ∀ token ∈ tree.tokens, token.Faithful) :
    tree.value.Plain := by
  cases tree with
  | otherwise colon value =>
    exact ValueTree.plain fun token ht => h token (by simp [tokens, ht])
  | bare text => exact QuotedTree.plain h
  | keyed key colon value =>
    exact ValueTree.plain fun token ht => h token (by simp [tokens, ht])

/-! ### Tokens of subtrees -/

theorem EntriesTree.tokens_subset {tree : EntriesTree} {entry : EntryTree}
    (h : entry ∈ tree.entries) : entry.tokens ⊆ tree.tokens := by
  induction tree with
  | last e =>
    obtain rfl := List.mem_singleton.1 h
    exact List.Subset.refl _
  | closed e comma =>
    obtain rfl := List.mem_singleton.1 h
    exact List.subset_append_left _ _
  | more e comma rest ih =>
    rcases List.mem_cons.1 h with rfl | h
    · exact List.subset_append_left _ _
    · intro token ht
      simp [tokens, ih h ht]

theorem SettingsTree.tokens_subset {tree : SettingsTree} {entry : EntryTree}
    (h : entry ∈ tree.entries) : entry.tokens ⊆ tree.tokens := by
  cases tree with
  | braced opening entries closing =>
    intro token ht
    simp [tokens, EntriesTree.tokens_subset h ht]
  | plain entries => exact EntriesTree.tokens_subset h

theorem PlaceTree.tokens_subset {tree : PlaceTree} {settings : SettingsTree}
    (h : settings ∈ tree.details.settings?) : settings.tokens ⊆ tree.tokens := by
  intro token ht
  obtain ⟨opening, name, details, closing, hk⟩ := tree
  cases details <;> simp [DetailsTree.settings?] at h
  all_goals
    subst h
    simp [tokens, DetailsTree.tokens, ht]

namespace TemplateTree

variable {tree : TemplateTree}

theorem tokens_subset {item : ItemTree} (h : item ∈ tree.items) : item.tokens ⊆ tree.tokens := by
  intro token ht
  exact List.mem_append_left _ (List.mem_flatMap.2 ⟨item, h, ht⟩)

/-- Folding moves spaces only, so a placeholder of the message stands in the tree. -/
theorem exists_place {place : Placeholder} (h : .placeholder place ∈ tree.message.parts) :
    ∃ item, .place item ∈ tree.items ∧ place.name = item.place.name ∧
      place.format = item.place.format ∧ place.settings = item.place.settings := by
  rw [message, Message.parts_ofParts] at h
  obtain ⟨original, ho, hplace⟩ := (Part.respaced_of_mem_foldEmpty h).exists_place
  obtain ⟨item, hi, hpart⟩ := List.mem_map.1 ho
  cases item with
  | text token before after kind => cases hpart
  | place item =>
    obtain rfl := Part.placeholder.inj hpart
    exact ⟨item, hi, hplace⟩

/-- So does the text of a literal. -/
theorem exists_text {text : Literal} (h : .literal text ∈ tree.message.parts) :
    ∃ token before after kind, .text token before after kind ∈ tree.items ∧
      text.text = token.text := by
  rw [message, Message.parts_ofParts] at h
  obtain ⟨original, ho, htext⟩ := (Part.respaced_of_mem_foldEmpty h).exists_literal
  obtain ⟨item, hi, hpart⟩ := List.mem_map.1 ho
  cases item with
  | place item => cases hpart
  | text token before after kind =>
    obtain rfl := Part.literal.inj hpart
    exact ⟨token, before, after, kind, hi, htext⟩

end TemplateTree

/-! ### Messages -/

/-- Settings as templates have them. -/
structure Settings.Written (settings : Settings SettingValue) : Prop where
  /-- No key repeats. -/
  distinct : settings.Distinct
  /-- Values are no messages, and strings are faithful. -/
  plain : ∀ value ∈ settings.values, value.Plain

theorem written_empty : Settings.Written {} :=
  ⟨Settings.distinct_empty, by simp [Settings.values]⟩

theorem SettingsTree.written {tree : SettingsTree} (hd : tree.Distinct)
    (h : ∀ token ∈ tree.tokens, token.Faithful) : tree.settings.Written := by
  refine ⟨hd.keys, fun value hv => ?_⟩
  obtain ⟨entry, he, rfl⟩ := exists_entry hv
  exact EntryTree.plain fun token ht => h token (tokens_subset he ht)

theorem PlaceTree.written {tree : PlaceTree} (hd : tree.Distinct)
    (h : ∀ token ∈ tree.tokens, token.Faithful) : tree.place.settings.Written := by
  show Settings.Written ((tree.details.settings?.map SettingsTree.settings).getD {})
  cases hs : tree.details.settings? with
  | none => exact written_empty
  | some settings =>
    exact SettingsTree.written (hd settings hs) fun token ht => h token (tokens_subset hs ht)

namespace Template

/-- The message of a template is one of parts. -/
theorem exists_parts_of_parse {source : String} {message : Message}
    (h : parse source = .ok message) : ∃ parts, message = .ofParts parts := by
  obtain ⟨tree, -, -, rfl⟩ := parse?_eq_ok_iff.1 (parse_eq_ok_iff.1 h)
  exact ⟨_, rfl⟩

/-- Settings in the message of a template are as templates have them. -/
theorem written_of_parse {source : String} {message : Message} (h : parse source = .ok message)
    {place : Placeholder} (hp : .placeholder place ∈ message.parts) : place.settings.Written := by
  obtain ⟨tree, ht, hd, rfl⟩ := parse?_eq_ok_iff.1 (parse_eq_ok_iff.1 h)
  obtain ⟨item, hi, -, -, hs⟩ := TemplateTree.exists_place hp
  rw [hs]
  apply PlaceTree.written (hd _ hi)
  intro token hmem
  exact (isScanned_of_tokenize ht).faithful token (TemplateTree.tokens_subset hi hmem)

/-- Nothing stands below the message of a template. -/
theorem inners_of_parse {source : String} {message : Message} (h : parse source = .ok message) :
    message.inners = [] := by
  have hparts : message.parts.flatMap Part.inners = [] := by
    rw [List.flatMap_eq_nil_iff]
    intro part hp
    cases part with
    | literal text => rfl
    | placeholder place =>
      rw [Part.inners, List.filterMap_eq_nil_iff]
      exact fun value hv => ((written_of_parse h hp).plain value hv).noMessage
  obtain ⟨parts, rfl⟩ := exists_parts_of_parse h
  rcases Message.ofParts_cases parts with he | ⟨part, he⟩ | ⟨all, he, -⟩ <;>
    rw [he] at hparts ⊢ <;> exact hparts

/-- The strings that a template is read with are faithful. -/
theorem allQuoted_of_parse {source : String} {message : Message} (h : parse source = .ok message) :
    message.AllQuoted QuotedText.Faithful := by
  apply Message.Everywhere.of_inners_eq_nil
  · intro place hp quoted hq
    obtain ⟨value, hv, hquoted⟩ := List.mem_filterMap.1 hq
    have hplain := (written_of_parse h hp).plain value hv
    cases value with
    | string quoted' =>
      obtain rfl := Option.some.inj hquoted
      exact hplain.faithful _ rfl
    | bool _ | message _ | number _ => cases hquoted
  · exact inners_of_parse h

/-! ### Codes and locales -/

theorem parseCoded_eq_ok_iff {code source : String} {message : Message} :
    parseCoded code source = .ok message ↔
      ∃ inner, parse source = .ok inner ∧ message = .coded code inner := by
  unfold parseCoded
  cases parse source with
  | error e => simp
  | ok inner => simp [eq_comm]

/-- The message of a template; that of a refused one is empty. -/
def said (source : String) : Message := (parse source).toOption.getD .empty

theorem said_of_parse {source : String} {message : Message} (h : parse source = .ok message) :
    said source = message := by
  rw [said, h]
  rfl

theorem parse_eq_ok_said {source : String} {message : Message} (h : parse source = .ok message) :
    parse source = .ok (said source) := by
  rw [said_of_parse h, h]

/-- Variants are read if every template is, and they are the messages of the templates in order. -/
theorem parseVariants_eq_ok_iff {code : Option String} {templates : List (Locale × String)}
    {variants : List (Locale × Message)} :
    parseVariants code templates = .ok variants ↔
      (∀ template ∈ templates, parse template.2 = .ok (said template.2)) ∧
        variants = templates.map fun template => (template.1, said template.2) := by
  induction templates generalizing variants with
  | nil =>
    constructor
    · intro h
      obtain rfl := Except.ok.inj h
      simp
    · rintro ⟨-, rfl⟩
      rfl
  | cons template templates ih =>
    obtain ⟨locale, source⟩ := template
    rw [parseVariants, parseVariant]
    constructor
    · intro h
      obtain ⟨message, hmessage, h⟩ := exists_of_bind_eq_ok h
      obtain ⟨rest, hrest, h⟩ := exists_of_bind_eq_ok h
      obtain ⟨hall, rfl⟩ := ih.1 hrest
      have hp : parse source = .ok message := eq_ok_of_mapError_eq_ok hmessage
      have hs := parse_eq_ok_said hp
      obtain rfl : message = said source := Except.ok.inj (hp.symm.trans hs)
      obtain rfl := Except.ok.inj h
      exact ⟨List.forall_mem_cons.2 ⟨hs, hall⟩, rfl⟩
    · rintro ⟨hall, rfl⟩
      obtain ⟨hs, hrest⟩ := List.forall_mem_cons.1 hall
      rw [hs, ih.2 ⟨hrest, rfl⟩]
      rfl

end Template

/-! ### Strings -/

/-- String values as programs make them: of a text, of a source, or by reading a template. -/
inductive QuotedText.Built : QuotedText → Prop
  /-- Of a text. -/
  | ofText (text : String) : Built (.ofText text)
  /-- Of a source. -/
  | ofSource (source : String) : Built (.ofSource source)
  /-- By reading a template. -/
  | parsed {source : String} {message : Message} {place : Placeholder} {quoted : QuotedText}
      (parse : Template.parse source = .ok message)
      (mem : .placeholder place ∈ message.parts)
      (value : .string quoted ∈ place.settings.values) : Built quoted

/-- However a string value is made, its text is what its source stands for. -/
theorem QuotedText.Built.faithful {quoted : QuotedText} (h : quoted.Built) : quoted.Faithful := by
  cases h with
  | ofText text => exact faithful_ofText text
  | ofSource source => exact faithful_ofSource source
  | parsed hparse hmem hvalue =>
    exact ((Template.written_of_parse hparse hmem).plain _ hvalue).faithful quoted rfl

end Phrasebook
