import Phrasebook.Proofs.Pack.Messages
import Phrasebook.Proofs.Template.Messages
import Phrasebook.Proofs.Template.Sizes

/-! # Messages of templates can be told in a pack

    Texts of a template are no longer than the template, and it has no more parts and entries than
    bytes. So a template whose own length can be told in a pack is read as a message of which that
    holds everywhere. -/

namespace Phrasebook

/-! ### Texts of tokens -/

theorem fitsLength_iff {text : String} : FitsLength text ↔ byteCount text.toList < countLimit := by
  rw [FitsLength, length_utf8Bytes]

theorem TokenKind.IsWord.isSingle {kind : TokenKind} (h : kind.IsWord) : kind.isSingle = true := by
  rcases h with rfl | rfl | rfl <;> rfl

theorem Token.fits_of_isSingle {token : Token} (hk : token.kind.isSingle = true)
    (h : token.size < countLimit) : FitsLength token.text := by
  rw [fitsLength_iff]
  rw [size_of_isSingle hk] at h
  omega

/-- Quoted text fits in both of its forms. -/
theorem QuotedTree.fits {tree : QuotedTree} (h : tokensSize tree.tokens < countLimit) :
    FitsLength tree.source ∧ FitsLength tree.content.text := by
  have hsize : tree.content.size =
      max (byteCount tree.source.toList) (byteCount tree.content.text.toList) + 1 := by
    rw [Token.size, tree.content_kind]
  have hle := size_of_mem (show tree.content ∈ tree.tokens by simp [tokens])
  rw [fitsLength_iff, fitsLength_iff]
  omega

/-! ### Every tree has tokens that take room -/

theorem Token.size_pos_of_isSingle {token : Token} (hk : token.kind.isSingle = true) :
    0 < token.size := by
  rw [size_of_isSingle hk]
  omega

theorem QuotedTree.size_pos (tree : QuotedTree) : 0 < tokensSize tree.tokens := by
  have hle := size_of_mem (show tree.content ∈ tree.tokens by simp [tokens])
  have hsize : 0 < tree.content.size := by
    rw [Token.size, tree.content_kind]
    exact Nat.succ_pos _
  omega

theorem Leaf.size_pos {kind : TokenKind} (leaf : Leaf kind) (hk : kind.isSingle = true) :
    0 < leaf.token.size := by
  apply Token.size_pos_of_isSingle
  rw [leaf.kind_eq]
  exact hk

theorem EntryTree.size_pos (tree : EntryTree) : 0 < tokensSize tree.tokens := by
  cases tree with
  | otherwise colon value =>
    have hcolon := colon.size_pos rfl
    rw [tokens, tokensSize_cons]
    omega
  | bare text => exact text.size_pos
  | keyed key colon value =>
    have hcolon := colon.size_pos rfl
    rw [tokens, tokensSize_append, tokensSize_cons]
    omega

theorem EntriesTree.length_le (tree : EntriesTree) :
    tree.entries.length ≤ tokensSize tree.tokens := by
  induction tree with
  | last entry => exact entry.size_pos
  | closed entry comma =>
    have hentry := entry.size_pos
    rw [tokens, tokensSize_append]
    exact Nat.le_trans hentry (Nat.le_add_right _ _)
  | more entry comma rest ih =>
    have hentry := entry.size_pos
    rw [tokens, entries, tokensSize_append, tokensSize_cons, List.length_cons]
    omega

theorem ItemTree.size_pos (tree : ItemTree) : 0 < tokensSize tree.tokens := by
  cases tree with
  | text token before after kind =>
    have htoken := Token.size_pos_of_isSingle (show token.kind.isSingle = true by rw [kind]; rfl)
    rw [tokens, tokensSize_cons]
    omega
  | place place =>
    have hopening := place.opening.size_pos rfl
    rw [tokens, PlaceTree.tokens, tokensSize_cons]
    omega

/-! ### Keys, values and settings -/

theorem KeyTree.fits {tree : KeyTree} (h : tokensSize tree.tokens < countLimit) :
    tree.key.Fits := by
  cases tree with
  | quoted mark text =>
    rw [tokens, tokensSize_append] at h
    exact (QuotedTree.fits (by omega : tokensSize text.tokens < countLimit)).2
  | name leaf =>
    have hsize := size_of_mem (show leaf.token ∈ (KeyTree.name leaf).tokens by simp [tokens])
    apply Token.fits_of_isSingle
    · rw [leaf.kind_eq]
      rfl
    · omega
  | number _ _ _ _ | null _ _ _ | empty _ _ _ | bool _ _ _ => trivial

theorem QuotedTree.sound {tree : QuotedTree} (h : tokensSize tree.tokens < countLimit)
    (hf : ∀ token ∈ tree.tokens, token.Faithful) :
    (SettingValue.string tree.value).Sound QuotedText.Faithful :=
  ⟨(QuotedTree.fits h).1, (QuotedTree.plain hf).faithful _ rfl⟩

theorem ValueTree.sound {tree : ValueTree} (h : tokensSize tree.tokens < countLimit)
    (hf : ∀ token ∈ tree.tokens, token.Faithful) : tree.value.Sound QuotedText.Faithful := by
  cases tree with
  | quoted text => exact QuotedTree.sound h hf
  | word token kind =>
    have hsize := size_of_mem (show token ∈ (ValueTree.word token kind).tokens by simp [tokens])
    refine ⟨Token.fits_of_isSingle kind.isSingle (by omega), ?_⟩
    exact (ValueTree.plain hf).faithful _ rfl
  | number _ _ _ | bool _ _ _ => trivial

theorem EntryTree.sound {tree : EntryTree} (h : tokensSize tree.tokens < countLimit)
    (hf : ∀ token ∈ tree.tokens, token.Faithful) :
    (∀ entry ∈ tree.keyed?, entry.1.Fits) ∧ tree.value.Sound QuotedText.Faithful := by
  cases tree with
  | otherwise colon value =>
    rw [tokens, tokensSize_cons] at h
    refine ⟨by simp [keyed?], ValueTree.sound (by omega) ?_⟩
    intro token ht
    exact hf token (by simp [tokens, ht])
  | bare text =>
    refine ⟨by simp [keyed?], QuotedTree.sound h hf⟩
  | keyed key colon value =>
    rw [tokens, tokensSize_append, tokensSize_cons] at h
    have hkey : key.key.Fits := KeyTree.fits (by omega)
    refine ⟨by simpa [keyed?] using hkey, ValueTree.sound (by omega) ?_⟩
    intro token ht
    exact hf token (by simp [tokens, ht])

/-- What is a part of the tokens takes no more room. -/
theorem EntriesTree.size_of_mem {tree : EntriesTree} {entry : EntryTree}
    (h : entry ∈ tree.entries) : tokensSize entry.tokens ≤ tokensSize tree.tokens := by
  induction tree with
  | last e =>
    obtain rfl := List.mem_singleton.1 h
    exact Nat.le_refl _
  | closed e comma =>
    obtain rfl := List.mem_singleton.1 h
    rw [tokens, tokensSize_append]
    omega
  | more e comma rest ih =>
    rw [tokens, tokensSize_append, tokensSize_cons]
    rcases List.mem_cons.1 h with rfl | h
    · omega
    · have hrest := ih h
      omega

theorem SettingsTree.size_entries (tree : SettingsTree) :
    tree.entries.length ≤ tokensSize tree.tokens ∧
      ∀ entry ∈ tree.entries, tokensSize entry.tokens ≤ tokensSize tree.tokens := by
  cases tree with
  | plain entries => exact ⟨entries.length_le, fun entry he => EntriesTree.size_of_mem he⟩
  | braced opening entries closing =>
    have hinside : tokensSize entries.tokens ≤
        tokensSize (SettingsTree.braced opening entries closing).tokens := by
      rw [tokens, tokensSize_cons, tokensSize_append]
      omega
    refine ⟨entries.length_le.trans hinside, ?_⟩
    intro entry he
    exact (EntriesTree.size_of_mem he).trans hinside

theorem SettingsTree.sound {tree : SettingsTree} (hd : tree.Distinct)
    (h : tokensSize tree.tokens < countLimit) (hf : ∀ token ∈ tree.tokens, token.Faithful) :
    tree.settings.Sound QuotedText.Faithful := by
  obtain ⟨hlength, hentries⟩ := tree.size_entries
  have hentry (entry : EntryTree) (he : entry ∈ tree.entries) :
      (∀ keyed ∈ entry.keyed?, keyed.1.Fits) ∧ entry.value.Sound QuotedText.Faithful := by
    have hle := hentries entry he
    apply EntryTree.sound (by omega)
    intro token ht
    exact hf token (SettingsTree.tokens_subset he ht)
  refine ⟨hd.keys, ?_, ?_, ?_⟩
  · have hkeyed := List.length_filterMap_le EntryTree.keyed? tree.entries
    show (tree.entries.filterMap EntryTree.keyed?).length < countLimit
    omega
  · intro key hk
    obtain ⟨keyed, hm, rfl⟩ := List.mem_map.1 hk
    obtain ⟨entry, he, hkeyed⟩ := List.mem_filterMap.1 hm
    exact (hentry entry he).1 keyed hkeyed
  · intro value hv
    obtain ⟨entry, he, rfl⟩ := exists_entry hv
    exact (hentry entry he).2

/-! ### Parts and messages -/

theorem sound_empty : Settings.Sound QuotedText.Faithful {} := by
  refine ⟨Settings.distinct_empty, by decide, ?_, ?_⟩
  · intro key hk
    cases hk
  · intro value hv
    cases hv

/-- The name of a format is the text of one of the tokens. -/
theorem DetailsTree.exists_format {tree : DetailsTree} {format : String}
    (h : format ∈ tree.format?) : ∃ word : Leaf .name, word.token ∈ tree.tokens ∧
      format = word.token.text := by
  cases tree with
  | none | settings _ _ => cases h
  | format comma word =>
    obtain rfl := Option.some.inj h
    exact ⟨word, by simp [tokens], rfl⟩
  | both comma word comma' tree =>
    obtain rfl := Option.some.inj h
    exact ⟨word, by simp [tokens], rfl⟩

theorem DetailsTree.size_settings {tree : DetailsTree} {settings : SettingsTree}
    (h : settings ∈ tree.settings?) : tokensSize settings.tokens ≤ tokensSize tree.tokens := by
  cases tree with
  | none | format _ _ => cases h
  | settings comma tree =>
    obtain rfl := Option.some.inj h
    rw [tokens, tokensSize_cons]
    omega
  | both comma word comma' tree =>
    obtain rfl := Option.some.inj h
    rw [tokens, tokensSize_cons, tokensSize_cons, tokensSize_cons]
    omega

theorem PlaceTree.sound {tree : PlaceTree} (hd : tree.Distinct)
    (h : tokensSize tree.tokens < countLimit) (hf : ∀ token ∈ tree.tokens, token.Faithful) :
    (Part.placeholder tree.place).Sound QuotedText.Faithful := by
  have hdetails : tokensSize tree.details.tokens ≤ tokensSize tree.tokens := by
    rw [tokens, tokensSize_cons, tokensSize_cons, tokensSize_append]
    omega
  refine ⟨?_, ?_, ?_⟩
  · have hsize := size_of_mem (show tree.name ∈ tree.tokens by simp [tokens])
    have hsingle : tree.name.kind.isSingle = true := by
      rcases tree.name_kind with hword | ⟨b, hb⟩
      · exact hword.isSingle
      · rw [hb]
        rfl
    exact Token.fits_of_isSingle hsingle (by omega)
  · intro format hformat
    obtain ⟨word, hw, rfl⟩ := DetailsTree.exists_format hformat
    have hsize := size_of_mem hw
    apply Token.fits_of_isSingle
    · rw [word.kind_eq]
      rfl
    · omega
  · show Settings.Sound QuotedText.Faithful
      ((tree.details.settings?.map SettingsTree.settings).getD {})
    cases hs : tree.details.settings? with
    | none => exact sound_empty
    | some settings =>
      have hsize := DetailsTree.size_settings hs
      apply SettingsTree.sound (hd settings hs)
      · omega
      · intro token ht
        exact hf token (tokens_subset hs ht)

theorem ItemTree.sound {tree : ItemTree} (hd : tree.Distinct)
    (h : tokensSize tree.tokens < countLimit) (hf : ∀ token ∈ tree.tokens, token.Faithful) :
    tree.part.Sound QuotedText.Faithful := by
  cases tree with
  | text token before after kind =>
    rw [tokens, tokensSize_cons] at h
    apply Token.fits_of_isSingle
    · rw [kind]
      rfl
    · omega
  | place place => exact PlaceTree.sound hd h hf

/-- Spaces around a part do not matter to its fields. -/
theorem Part.Respaced.sound {parts : List Part} {part : Part} (h : Respaced parts part)
    (hs : ∀ original ∈ parts, original.Sound QuotedText.Faithful) :
    part.Sound QuotedText.Faithful := by
  obtain ⟨original, ho, before, after, rfl⟩ := h
  have hsound := hs original ho
  cases original with
  | literal text => exact hsound
  | placeholder place => exact hsound

namespace Part

theorem length_foldBehind_le (last : Part) (parts : List Part) :
    (foldBehind last parts).length ≤ parts.length + 1 := by
  induction parts generalizing last with
  | nil => exact Nat.le_refl _
  | cons part parts ih =>
    rw [foldBehind, List.length_cons]
    split
    · have hrest := ih (last.addSpaces false (part.spaceBefore || part.spaceAfter))
      omega
    · have hrest := ih part
      rw [List.length_cons]
      omega

theorem length_foldEmptyFrom_le (pending : Bool) (parts : List Part) :
    (foldEmptyFrom pending parts).length ≤ parts.length := by
  induction parts generalizing pending with
  | nil => exact Nat.le_refl _
  | cons part parts ih =>
    rw [foldEmptyFrom, List.length_cons]
    split
    · have hrest := ih (pending || part.spaceBefore || part.spaceAfter)
      omega
    · exact length_foldBehind_le _ parts

end Part

theorem length_items_le (items : List ItemTree) :
    items.length ≤ tokensSize (items.flatMap ItemTree.tokens) := by
  induction items with
  | nil => exact Nat.zero_le _
  | cons item items ih =>
    have hitem := item.size_pos
    rw [List.flatMap_cons, tokensSize_append, List.length_cons]
    omega

theorem size_of_mem_items {items : List ItemTree} {item : ItemTree} (h : item ∈ items) :
    tokensSize item.tokens ≤ tokensSize (items.flatMap ItemTree.tokens) := by
  obtain ⟨front, back, rfl⟩ := List.append_of_mem h
  rw [List.flatMap_append, List.flatMap_cons, tokensSize_append, tokensSize_append]
  omega

/-- A template that fits is read as a message that fits. -/
theorem Template.sound_of_parse {locale : Locale → Prop} {source : String} {message : Message}
    (hfits : FitsLength source) (h : parse source = .ok message) :
    message.AllSound QuotedText.Faithful locale := by
  have hinners := inners_of_parse h
  obtain ⟨tree, ht, hd, rfl⟩ := parse?_eq_ok_iff.1 (parse_eq_ok_iff.1 h)
  have hfaithful := (isScanned_of_tokenize ht).faithful
  have hsize : tokensSize (tree.items.flatMap ItemTree.tokens) < countLimit := by
    have htokens := size_of_tokenize ht
    rw [TemplateTree.tokens, tokensSize_append] at htokens
    unfold FitsLength at hfits
    omega
  have hitems : ∀ part ∈ tree.items.map ItemTree.part, part.Sound QuotedText.Faithful := by
    intro part hp
    obtain ⟨item, hi, rfl⟩ := List.mem_map.1 hp
    have hitem := size_of_mem_items hi
    apply ItemTree.sound (hd item hi) (by omega)
    intro token hmem
    exact hfaithful token (List.mem_append_left _ (List.mem_flatMap.2 ⟨item, hi, hmem⟩))
  have hparts : tree.message.parts.length < countLimit ∧
      ∀ part ∈ tree.message.parts, part.Sound QuotedText.Faithful := by
    rw [TemplateTree.message, Message.parts_ofParts]
    constructor
    · have hfold := Part.length_foldEmptyFrom_le false (tree.items.map ItemTree.part)
      have hlength := length_items_le tree.items
      rw [List.length_map] at hfold
      show (Part.foldEmptyFrom false _).length < countLimit
      omega
    · intro part hp
      exact (Part.respaced_of_mem_foldEmpty hp).sound hitems
  refine Message.Everywhere.of_inners_eq_nil ?_ hinners
  -- a message of parts asks for nothing else
  rcases Message.ofParts_cases (tree.items.map ItemTree.part) with he | ⟨part, he⟩ | ⟨all, he, -⟩
  all_goals
    rw [TemplateTree.message, he] at hparts ⊢
    exact hparts

end Phrasebook
