import Phrasebook.Proofs.Message.Folding
import Phrasebook.Proofs.Template.Messages
import Phrasebook.Proofs.Text.Collapsing

/-! # Messages that can be printed

    A message is printable if it consists of parts that are arranged, and if its words and the
    sources of its strings are such as the scanner reads. Every message of a template is printable:

    * a word that is scanned begins with a letter, and the scanner knows its kind from it;
    * a source that is scanned between quotes is well escaped;
    * a text is scanned up to a placeholder or the end, so texts are no neighbours. -/

namespace Phrasebook

/-! ### Printable messages -/

/-- The text is scanned as one word, a name or a keyword. -/
def IsWordText (word : String) : Prop :=
  ∃ c cs, word.toList = c :: cs ∧ isNameStart c = true ∧ ∀ d ∈ cs, isNamePart d = true

theorem isWordText_cons {word : String} {c : Char} {cs : List Char}
    (hword : word.toList = c :: cs) (hstart : isNameStart c = true)
    (hparts : cs.all isNamePart = true) : IsWordText word :=
  ⟨c, cs, hword, hstart, List.all_eq_true.mp hparts⟩

/-- The text is scanned as one word that is no keyword. -/
structure IsNameText (word : String) : Prop where
  /-- It is scanned as one word. -/
  isWord : IsWordText word
  /-- It is no keyword. -/
  kind : TokenKind.ofWord word = .name

/-- Names are no keywords, and keywords are compared by equality and its contrary only. -/
def SettingKey.Printable : SettingKey → Prop
  | .name word => IsNameText word
  | .null relation | .empty relation => relation = .eq ∨ relation = .ne
  | .bool _ | .number _ _ | .string _ _ => True

/-- The value is no message, and the source of a string is well escaped. -/
def SettingValue.Printable : SettingValue → Prop
  | .bool _ | .number _ => True
  | .string quoted => WellEscaped quoted.source.toList
  | .message _ => False

/-- Settings with distinct keys, all of them printable as the values are. -/
structure Settings.Printable (settings : Settings SettingValue) : Prop where
  /-- No key repeats. -/
  distinct : settings.Distinct
  /-- Keys are printable. -/
  keys : ∀ key ∈ settings.keys, key.Printable
  /-- Values are printable. -/
  values : ∀ value ∈ settings.values, value.Printable

/-- A placeholder with a word for a name, a name for a format, and printable settings. -/
structure Placeholder.Printable (place : Placeholder) : Prop where
  /-- The name is a word. -/
  name : IsWordText place.name
  /-- The format is a name. -/
  format : ∀ format ∈ place.format, IsNameText format
  /-- The settings are printable. -/
  settings : place.settings.Printable

/-- The message is empty, one part, or several parts. -/
def Message.OfParts : Message → Prop
  | .empty | .single _ => True
  | .multiple parts => 2 ≤ parts.length
  | .localized _ | .coded _ _ => False

/-- A message of arranged parts with printable placeholders. -/
structure Message.Printable (message : Message) : Prop where
  /-- The message consists of its parts. -/
  ofParts : message.OfParts
  /-- The parts are arranged. -/
  arranged : Part.Arranged message.parts
  /-- Placeholders are printable. -/
  places : ∀ place, .placeholder place ∈ message.parts → place.Printable

/-- A message that consists of its parts is the one that they are folded to. -/
theorem Message.OfParts.ofParts_eq {message : Message} (h : message.OfParts) {parts : List Part}
    (hparts : Part.foldEmpty parts = message.parts) : Message.ofParts parts = message := by
  rw [Message.ofParts, hparts]
  cases message with
  | empty => rfl
  | single part => rfl
  | multiple parts =>
    match parts, h with
    | _ :: _ :: _, _ => rfl
  | localized variants => exact absurd h id
  | coded code message => exact absurd h id

theorem Message.ofParts_ofParts (parts : List Part) : (Message.ofParts parts).OfParts := by
  rcases Message.ofParts_cases parts with he | ⟨part, he⟩ | ⟨all, he, hlen⟩ <;> rw [he]
  · trivial
  · trivial
  · exact hlen

/-! ### Scanned tokens -/

/-- The token is literal text. -/
def Token.IsText (token : Token) : Prop := ∃ before after, token.kind = .text before after

/-- What the source says of a token: a word has the kind that its text asks for, and the source of
    a quoted text is well escaped. -/
structure Token.Written (token : Token) : Prop where
  /-- The text of a word is a word. -/
  word : token.kind.IsWord ∨ (∃ b, token.kind = .bool b) →
    IsWordText token.text ∧ token.kind = .ofWord token.text
  /-- The source of quoted text is well escaped. -/
  source : ∀ source, token.kind = .quotedText source → WellEscaped source.toList

/-- The kinds of tokens that are neither text nor words. -/
def TokenKind.isMark : TokenKind → Bool
  | .text _ _ | .quotedText _ | .name | .null | .empty | .bool _ => false
  | _ => true

theorem Token.written_of_isMark {token : Token} (h : token.kind.isMark = true) :
    token.Written ∧ ¬ token.IsText := by
  refine ⟨⟨fun hw => ?_, fun source hs => ?_⟩, fun ⟨before, after, ht⟩ => ?_⟩
  · rcases hw with (hk | hk | hk) | ⟨b, hk⟩ <;> simp [hk, TokenKind.isMark] at h
  · simp [hs, TokenKind.isMark] at h
  · simp [ht, TokenKind.isMark] at h

theorem Token.written_of_text {token : Token} (h : token.IsText) : token.Written := by
  obtain ⟨before, after, ht⟩ := h
  exact ⟨by simp [ht, TokenKind.IsWord], by simp [ht]⟩

theorem TokenKind.ofWord_cases (word : String) :
    (ofWord word).IsWord ∨ ∃ b, ofWord word = .bool b := by
  unfold ofWord
  split
  · exact .inr ⟨true, rfl⟩
  split
  · exact .inr ⟨false, rfl⟩
  split
  · exact .inl (.inr (.inl rfl))
  split
  · exact .inl (.inr (.inr rfl))
  · exact .inl (.inl rfl)

/-- What is scanned from a letter on is a word. -/
theorem Token.written_of_word {token : Token} (htext : IsWordText token.text)
    (hkind : token.kind = .ofWord token.text) : token.Written ∧ ¬ token.IsText := by
  have hcases := TokenKind.ofWord_cases token.text
  rw [← hkind] at hcases
  refine ⟨⟨fun _ => ⟨htext, hkind⟩, fun source hs => ?_⟩, fun ⟨before, after, ht⟩ => ?_⟩
  · rw [hs] at hcases
    simp [TokenKind.IsWord] at hcases
  · rw [ht] at hcases
    simp [TokenKind.IsWord] at hcases

theorem written_of_scanQuotedTokens {size : Nat} {quote : Quote} {opening content rest : List Char}
    {tokens : List Token} (h : scanQuotedTokens size quote opening content = .ok (tokens, rest)) :
    ∀ token ∈ tokens, token.Written ∧ ¬ token.IsText := by
  unfold scanQuotedTokens at h
  obtain ⟨⟨text, closing⟩, hs, htokens⟩ := exists_of_map_eq_ok h
  obtain ⟨source, rfl, hsource⟩ := enclosable_of_scanQuoted hs
  obtain ⟨rfl, -⟩ := Prod.mk.inj htokens
  simp only [List.forall_mem_cons, List.not_mem_nil, false_imp_iff, implies_true, and_true]
  refine ⟨Token.written_of_isMark rfl, ⟨⟨by simp [Token.between, TokenKind.IsWord], ?_⟩, ?_⟩,
    Token.written_of_isMark rfl⟩
  · intro source' hk
    obtain rfl := TokenKind.quotedText.inj hk
    simpa using hsource.wellEscaped
  · rintro ⟨before, after, hk⟩
    cases hk

theorem written_of_scanNumber {size : Nat} {negative : Bool} {cs digits rest : List Char}
    {token : Token} (h : scanNumber size negative cs digits = .ok (token, rest)) :
    token.Written ∧ ¬ token.IsText := by
  obtain ⟨-, n, rfl⟩ := scanNumber_eq_ok h
  exact Token.written_of_isMark rfl

theorem PlaceholderStep.written {size opened maps : Nat} {c : Char} {cs : List Char}
    {step : ScanStep} (h : PlaceholderStep size opened maps c cs step) :
    ∀ token ∈ step.tokens, token.Written ∧ ¬ token.IsText := by
  cases h with
  | punctuation hk =>
    refine List.forall_mem_singleton.2 (Token.written_of_isMark ?_)
    unfold punctuationAt? at hk
    split at hk <;> simp at hk <;> obtain ⟨rfl, rfl⟩ := hk <;> rfl
  | quoted hs => exact written_of_scanQuotedTokens hs
  | comparator relation two => exact List.forall_mem_singleton.2 (Token.written_of_isMark rfl)
  | number hd hs => exact List.forall_mem_singleton.2 (written_of_scanNumber hs)
  | negative hc hs => exact List.forall_mem_singleton.2 (written_of_scanNumber hs)
  | word hc =>
    refine List.forall_mem_singleton.2 (Token.written_of_word ?_ rfl)
    exact ⟨c, cs.takeWhile isNamePart, String.toList_ofList, hc,
      List.all_eq_true.1 List.all_takeWhile⟩

/-- Text is scanned up to a placeholder or the end of the source. -/
theorem endsText_of_scanText {pending : Bool} {cs : List Char} {run : TextRun}
    (h : scanText pending cs = .ok run) : EndsText run.rest := by
  induction pending, cs using scanText.induct generalizing run with
  | case1 pending =>
    rw [scanText] at h
    obtain rfl := Except.ok.inj h
    exact .inl rfl
  | case2 pending c cs hopen =>
    rw [scanText, if_pos hopen] at h
    obtain rfl := Except.ok.inj h
    obtain ⟨rfl, hhead⟩ := hopen
    cases cs with
    | nil => cases hhead
    | cons d cs =>
      obtain rfl := Option.some.inj hhead
      exact .inr ⟨cs, rfl⟩
  | case3 pending c cs hopen hw ih =>
    rw [scanText, if_neg hopen, if_pos hw] at h
    exact ih h
  | case4 pending cs failure hf hopen hw =>
    rw [scanText_of_readEscape_error hf] at h
    cases h
  | case5 pending cs d rest hr hopen hw ih =>
    rw [scanText_of_readEscape hr] at h
    obtain ⟨run', hs, rfl⟩ := exists_of_map_eq_ok h
    exact (ih hs : EndsText run'.rest)
  | case6 pending c cs hopen hw hb ih =>
    rw [scanText, if_neg hopen, if_neg hw, if_neg hb] at h
    obtain ⟨run', hs, rfl⟩ := exists_of_map_eq_ok h
    exact (ih hs : EndsText run'.rest)

/-- A step reads text between two places where text ends, or it reads no text. -/
structure ScanStep.Sound (mode : ScanMode) (cs : List Char) (step : ScanStep) : Prop where
  /-- Tokens are what the source says. -/
  written : ∀ token ∈ step.tokens, token.Written
  /-- A text stands alone, and text ends behind it. -/
  texts : (∀ token ∈ step.tokens, ¬ token.IsText) ∨
    (∃ token, step.tokens = [token]) ∧ (mode = .text ∧ ¬ EndsText cs) ∧
      step.mode = .text ∧ EndsText step.rest

theorem sound_of_scanStep {size : Nat} {mode : ScanMode} {cs : List Char} {step : ScanStep}
    (h : scanStep size mode cs = .ok (some step)) : step.Sound mode cs := by
  rcases scanStep_cases h with ⟨rfl, hcs, hs⟩ | ⟨opened, maps, c, ds, -, -, hs⟩
  · unfold scanTextStep at hs
    split at hs
    · obtain rfl := Except.ok.inj hs
      exact ⟨List.forall_mem_singleton.2 (Token.written_of_isMark rfl).1,
        .inl (List.forall_mem_singleton.2 (Token.written_of_isMark rfl).2)⟩
    · rename_i hopen
      obtain ⟨run, hrun, rfl⟩ := exists_of_map_eq_ok hs
      refine ⟨List.forall_mem_singleton.2 (Token.written_of_text ⟨_, _, rfl⟩),
        .inr ⟨⟨_, rfl⟩, ⟨rfl, ?_⟩, rfl, endsText_of_scanText hrun⟩⟩
      rintro (rfl | ⟨more, rfl⟩)
      · exact hcs rfl
      · exact hopen more rfl
  · have hall := hs.written
    exact ⟨fun token ht => (hall token ht).1, .inl fun token ht => (hall token ht).2⟩

/-- Tokens are what the source says, and no two texts among them are neighbours. -/
structure TextsApart (mode : ScanMode) (cs : List Char) (tokens : List Token) : Prop where
  /-- Tokens are what the source says. -/
  written : ∀ token ∈ tokens, token.Written
  /-- No two texts are neighbours. -/
  apart : tokens.IsChain fun first second => ¬ (first.IsText ∧ second.IsText)
  /-- A text is first only where none ends. -/
  first : ∀ token ∈ tokens.head?, token.IsText → mode = .text ∧ ¬ EndsText cs

theorem textsApart_of_scanTokens {size : Nat} {mode : ScanMode} {cs : List Char}
    {tokens : List Token} (h : scanTokens size mode cs = .ok tokens) :
    TextsApart mode cs tokens := by
  refine scanTokens_induction (motive := TextsApart) ?_ ?_ h
  · intro cs hs
    refine ⟨List.forall_mem_singleton.2 (Token.written_of_isMark rfl).1,
      List.isChain_singleton _, ?_⟩
    rintro token ht htext
    obtain rfl := Option.some.inj ht
    exact absurd htext (Token.written_of_isMark rfl).2
  · rintro mode cs step tokens hs ⟨hwritten, hchain, hfirst⟩
    have hstep := sound_of_scanStep hs
    have hall : ∀ token ∈ step.tokens ++ tokens, token.Written :=
      List.forall_mem_append.2 ⟨hstep.written, hwritten⟩
    rcases hstep.texts with hnone | ⟨⟨token, htoken⟩, hmode, hmode', hends⟩
    · refine ⟨hall, List.isChain_append.2 ⟨?_, hchain, ?_⟩, ?_⟩
      · exact List.Pairwise.isChain (List.pairwise_of_forall_mem_list fun first hf second _ hboth =>
          hnone first hf hboth.1)
      · exact fun first hf second _ hboth => hnone first (List.mem_of_getLast? hf) hboth.1
      · intro token ht htext
        have hne : step.tokens ≠ [] := by
          have hlexeme := lexeme_of_scanStep hs
          intro hnil
          rw [hnil] at hlexeme
          cases hlexeme
        rw [List.head?_append_of_ne_nil _ hne] at ht
        exact absurd htext (hnone token (List.mem_of_mem_head? ht))
    · rw [htoken, List.singleton_append] at hall ⊢
      refine ⟨hall, List.isChain_cons.2 ⟨fun next hnext hboth => ?_, hchain⟩, fun _ _ _ => hmode⟩
      -- a text begins in front of characters where none ends
      exact (hfirst next hnext hboth.2).2 hends

/-! ### Trees over such tokens -/

theorem IsWordText.backslash_not_mem {word : String} (h : IsWordText word) :
    '\\' ∉ word.toList := by
  obtain ⟨c, cs, hword, hstart, hparts⟩ := h
  have hall : ∀ d ∈ word.toList, isNamePart d = true := by
    rw [hword]
    exact List.forall_mem_cons.2 ⟨isNamePart_of_isNameStart hstart, hparts⟩
  intro hmem
  cases (hall _ hmem).symm.trans not_isNamePart_backslash

theorem Leaf.isNameText {leaf : Leaf .name} (h : leaf.token.Written) :
    IsNameText leaf.token.text := by
  obtain ⟨hword, hkind⟩ := h.word (.inl (.inl leaf.kind_eq))
  exact ⟨hword, hkind.symm.trans leaf.kind_eq⟩

theorem QuotedTree.printable {tree : QuotedTree} (h : ∀ token ∈ tree.tokens, token.Written) :
    (SettingValue.string tree.value).Printable :=
  (h tree.content (by simp [tokens])).source tree.source tree.content_kind

theorem ValueTree.printable {tree : ValueTree} (h : ∀ token ∈ tree.tokens, token.Written) :
    tree.value.Printable := by
  cases tree with
  | quoted text => exact QuotedTree.printable h
  | number token n kind => trivial
  | bool token b kind => trivial
  | word token kind =>
    -- a word is its own source, and there is no escape in it
    have hword := ((h token (by simp [tokens])).word (.inl kind)).1
    exact Escaped.of_not_mem (fun _ _ => trivial) hword.backslash_not_mem

theorem KeyTree.printable {tree : KeyTree} (h : ∀ token ∈ tree.tokens, token.Written) :
    tree.key.Printable := by
  cases tree with
  | number mark token n kind => trivial
  | quoted mark text => trivial
  | null mark fine leaf => exact fine
  | empty mark fine leaf => exact fine
  | bool token b kind => trivial
  | name leaf => exact Leaf.isNameText (h leaf.token (by simp [tokens]))

theorem EntryTree.printable {tree : EntryTree} (h : ∀ token ∈ tree.tokens, token.Written) :
    tree.value.Printable := by
  cases tree with
  | otherwise colon value =>
    exact ValueTree.printable fun token ht => h token (by simp [tokens, ht])
  | bare text => exact QuotedTree.printable h
  | keyed key colon value =>
    exact ValueTree.printable fun token ht => h token (by simp [tokens, ht])

theorem SettingsTree.printable {tree : SettingsTree} (hd : tree.Distinct)
    (h : ∀ token ∈ tree.tokens, token.Written) : tree.settings.Printable := by
  have hentry {entry : EntryTree} (he : entry ∈ tree.entries) :
      ∀ token ∈ entry.tokens, token.Written :=
    fun token ht => h token (tokens_subset he ht)
  refine ⟨hd.keys, fun key hk => ?_, fun value hv => ?_⟩
  · obtain ⟨⟨key, value⟩, hkeyed, rfl⟩ := List.mem_map.1 hk
    obtain ⟨entry, he, hkeyed⟩ := List.mem_filterMap.1 hkeyed
    cases entry with
    | otherwise colon value => cases hkeyed
    | bare text => cases hkeyed
    | keyed keyTree colon valueTree =>
      obtain ⟨rfl, rfl⟩ := Prod.mk.inj (Option.some.inj hkeyed)
      exact KeyTree.printable fun token ht => hentry he token (by simp [EntryTree.tokens, ht])
  · obtain ⟨entry, he, rfl⟩ := exists_entry hv
    exact EntryTree.printable (hentry he)

theorem settings_printable_empty : Settings.Printable {} :=
  ⟨Settings.distinct_empty, by simp [Settings.keys], by simp [Settings.values]⟩

theorem PlaceTree.printable {tree : PlaceTree} (hd : tree.Distinct)
    (h : ∀ token ∈ tree.tokens, token.Written) : tree.place.Printable := by
  have hdetails : ∀ token ∈ tree.details.tokens, token.Written := by
    intro token ht
    exact h token (by simp [tokens, ht])
  refine ⟨((h tree.name (by simp [tokens])).word tree.name_kind).1, ?_, ?_⟩
  · show ∀ format ∈ tree.details.format?, IsNameText format
    intro format hf
    cases hdet : tree.details with
    | none => rw [hdet] at hf; cases hf
    | settings comma settings => rw [hdet] at hf; cases hf
    | format comma word | both comma word comma' settings =>
      rw [hdet] at hf hdetails
      obtain rfl := Option.some.inj hf
      exact Leaf.isNameText (hdetails word.token (by simp [DetailsTree.tokens]))
  · show Settings.Printable ((tree.details.settings?.map SettingsTree.settings).getD {})
    cases hs : tree.details.settings? with
    | none => exact settings_printable_empty
    | some settings =>
      exact SettingsTree.printable (hd settings hs) fun token ht => h token (tokens_subset hs ht)

/-! ### Messages of templates -/

/-- Items whose texts are apart stand for parts as they are read. -/
theorem unfolded_of_items {items : List ItemTree}
    (h : (items.flatMap ItemTree.tokens).IsChain fun first second =>
      ¬ (first.IsText ∧ second.IsText)) :
    Part.Unfolded (items.map ItemTree.part) := by
  constructor
  · induction items with
    | nil => exact List.IsChain.nil
    | cons item items ih =>
      rw [List.flatMap_cons] at h
      obtain ⟨-, hrest, hnext⟩ := List.isChain_append.1 h
      refine List.isChain_cons.2 ⟨fun part hpart hboth => ?_, ih hrest⟩
      cases items with
      | nil => cases hpart
      | cons next items =>
        obtain rfl := Option.some.inj hpart
        -- both are single tokens, which are neighbours
        cases item with
        | place tree => exact hboth.1
        | text token before after kind =>
          cases next with
          | place tree => exact hboth.2
          | text token' before' after' kind' =>
            exact hnext token rfl token' rfl ⟨⟨before, after, kind⟩, before', after', kind'⟩
  · intro place hp
    obtain ⟨item, -, hitem⟩ := List.mem_map.1 hp
    cases item with
    | text token before after kind => cases hitem
    | place tree =>
      obtain rfl := Part.placeholder.inj hitem
      exact ⟨rfl, rfl⟩

namespace Template

/-- Every message of a template is printable. -/
theorem printable_of_parse {source : String} {message : Message}
    (h : parse source = .ok message) : message.Printable := by
  obtain ⟨tree, ht, hd, rfl⟩ := parse?_eq_ok_iff.1 (parse_eq_ok_iff.1 h)
  obtain ⟨hwritten, hchain, -⟩ := textsApart_of_scanTokens ht
  refine ⟨Message.ofParts_ofParts _, ?_, ?_⟩
  · rw [TemplateTree.message, Message.parts_ofParts]
    exact Part.arranged_foldEmpty (unfolded_of_items (List.isChain_append.1 hchain).1)
  · intro place hp
    obtain ⟨item, hi, hname, hformat, hs⟩ := TemplateTree.exists_place hp
    have hplace : item.place.Printable := by
      apply PlaceTree.printable (hd _ hi)
      intro token hmem
      exact hwritten token (TemplateTree.tokens_subset hi hmem)
    exact ⟨hname ▸ hplace.name, hformat ▸ hplace.format, hs ▸ hplace.settings⟩

end Template

end Phrasebook
