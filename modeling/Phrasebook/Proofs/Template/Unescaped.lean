import Phrasebook.Proofs.Template.Printable
import Phrasebook.Proofs.Template.Sizes
import Phrasebook.Proofs.Text.Trimming

/-! # Templates without escape sequences

    Whitespace around a text is not part of the text, unless it is written as an escape sequence. So
    a template without backslashes has texts without spaces around them only, and the strings in it
    are sources without backslashes again.

    As with sizes, the fact is carried from the characters that a step reads to its tokens
    (`Token.Unescaped`), and from the tokens to the message. -/

namespace Phrasebook

/-! ### Texts -/

/-- No whitespace is written behind a text that is scanned without escape sequences, and none in
    front of it that was not there. -/
theorem ends_of_scanText {pending : Bool} {cs : List Char} {run : TextRun}
    (h : scanText pending cs = .ok run) (hs : '\\' ∉ cs) :
    (∀ c ∈ run.content.getLast?, isWhitespace c = false) ∧
      (pending = false → (∀ c ∈ cs.head?, isWhitespace c = false) →
        ∀ c ∈ run.content.head?, isWhitespace c = false) := by
  induction pending, cs using scanText.induct generalizing run with
  | case1 pending =>
    rw [scanText] at h
    obtain rfl := Except.ok.inj h
    simp
  | case2 pending c cs hp =>
    rw [scanText, if_pos hp] at h
    obtain rfl := Except.ok.inj h
    simp
  | case3 pending c cs hp hw ih =>
    rw [scanText, if_neg hp, if_pos hw] at h
    obtain ⟨hlast, -⟩ := ih h fun hc => hs (List.mem_cons_of_mem c hc)
    refine ⟨hlast, ?_⟩
    -- whitespace in front is taken away before, so there is none to begin with
    intro _ hfirst
    rw [hfirst c rfl] at hw
    cases hw
  | case4 pending cs => exact absurd List.mem_cons_self hs
  | case5 pending cs => exact absurd List.mem_cons_self hs
  | case6 pending c cs hp hw hb ih =>
    rw [scanText, if_neg hp, if_neg hw, if_neg hb] at h
    obtain ⟨run', hrun, rfl⟩ := exists_of_map_eq_ok h
    obtain ⟨hlast, -⟩ := ih hrun fun hc => hs (List.mem_cons_of_mem c hc)
    rw [Bool.not_eq_true] at hw
    constructor
    · -- a pending space is written in front of the character, never behind it
      have hbehind : ∀ d ∈ (c :: run'.content).getLast?, isWhitespace d = false := by
        intro d hd
        rw [List.getLast?_cons] at hd
        obtain rfl := Option.some.inj hd
        cases hr : run'.content.getLast? with
        | none => exact hw
        | some last => exact hlast last hr
      cases pending with
      | false => exact hbehind
      | true => exact hbehind
    · rintro rfl _ d hd
      obtain rfl := Option.some.inj hd
      exact hw

/-! ### Tokens -/

/-- The token has no spaces around its text, and no backslash in its source. -/
structure Token.Unescaped (token : Token) : Prop where
  /-- A text has no spaces around it. -/
  text : token.IsText → Unspaced token.text
  /-- The source of quoted text has no backslash. -/
  source : ∀ source, token.kind = .quotedText source → '\\' ∉ source.toList

theorem Token.unescaped_of_isMark {token : Token} (h : token.kind.isMark = true) :
    token.Unescaped := by
  constructor
  · intro htext
    exact absurd htext (written_of_isMark h).2
  · intro source hk
    simp [hk, TokenKind.isMark] at h

theorem Token.unescaped_of_ofWord {token : Token} {word : String}
    (h : token.kind = .ofWord word) : token.Unescaped := by
  have hcases := TokenKind.ofWord_cases word
  rw [← h] at hcases
  constructor
  · rintro ⟨before, after, hk⟩
    simp [hk, TokenKind.IsWord] at hcases
  · intro source hk
    simp [hk, TokenKind.IsWord] at hcases

variable {size : Nat} {cs : List Char} {step : ScanStep}

/-- The step yields such tokens, and an ending of what it read from is left. -/
structure ScanStep.Unescaped (cs : List Char) (step : ScanStep) : Prop where
  /-- The tokens are such tokens. -/
  tokens : ∀ token ∈ step.tokens, token.Unescaped
  /-- An ending is left. -/
  rest : step.rest <:+ cs

theorem ScanStep.unescaped_singleton {token : Token} {mode : ScanMode} {rest : List Char}
    (ht : token.Unescaped) (hr : rest <:+ cs) : ScanStep.Unescaped cs ⟨[token], mode, rest⟩ := by
  constructor
  · intro other hother
    obtain rfl := List.mem_singleton.1 hother
    exact ht
  · exact hr

theorem unescaped_of_scanTextStep (hs : '\\' ∉ cs) (h : scanTextStep size cs = .ok step) :
    step.Unescaped cs := by
  unfold scanTextStep at h
  split at h
  · obtain rfl := Except.ok.inj h
    exact ScanStep.unescaped_singleton (Token.unescaped_of_isMark rfl) ⟨['%', '\x7b'], rfl⟩
  · obtain ⟨run, hrun, rfl⟩ := exists_of_map_eq_ok h
    have hsuffix := List.dropWhile_suffix isWhitespace (l := cs)
    have hdropped : '\\' ∉ cs.dropWhile isWhitespace := fun hc => hs (hsuffix.subset hc)
    obtain ⟨hlast, hfirst⟩ := ends_of_scanText hrun hdropped
    have hcontent : Trimmed isWhitespace run.content :=
      ⟨hfirst rfl fun c hc => not_of_mem_head?_dropWhile hc, hlast⟩
    apply ScanStep.unescaped_singleton ?_ ((byteCount_of_scanText hrun).2.trans hsuffix)
    constructor
    · intro _
      show Trimmed isSpaceChar (String.ofList run.content).toList
      rw [String.toList_ofList]
      exact hcontent.mono fun _ => isWhitespace_of_isSpaceChar
    · intro source hk
      cases hk

theorem unescaped_of_scanQuotedTokens {quote : Quote} {opening content rest : List Char}
    {tokens : List Token} {mode : ScanMode} (hs : '\\' ∉ content)
    (h : scanQuotedTokens size quote opening content = .ok (tokens, rest)) :
    ScanStep.Unescaped content ⟨tokens, mode, rest⟩ := by
  unfold scanQuotedTokens at h
  obtain ⟨⟨text, closing⟩, hscan, htokens⟩ := exists_of_map_eq_ok h
  obtain ⟨source, rfl, -⟩ := unescapeChars_of_scanQuoted hscan
  obtain ⟨rfl, rfl⟩ := Prod.mk.inj htokens
  refine ⟨?_, (List.tail_suffix closing).trans (List.suffix_append source closing)⟩
  simp only [List.forall_mem_cons, List.not_mem_nil, false_imp_iff, implies_true, and_true]
  refine ⟨Token.unescaped_of_isMark rfl, ?_, Token.unescaped_of_isMark rfl⟩
  constructor
  · rintro ⟨before, after, hk⟩
    cases hk
  · intro other hk
    obtain rfl := TokenKind.quotedText.inj hk
    rw [String.toList_ofList]
    intro hc
    exact hs (List.mem_of_mem_take hc)

theorem unescaped_of_scanNumber {negative : Bool} {digits rest : List Char} {token : Token}
    {mode : ScanMode} (h : scanNumber size negative cs digits = .ok (token, rest)) :
    ScanStep.Unescaped digits ⟨[token], mode, rest⟩ := by
  obtain ⟨rfl, n, rfl⟩ := scanNumber_eq_ok h
  exact ScanStep.unescaped_singleton (Token.unescaped_of_isMark rfl)
    (List.dropWhile_suffix isDigit)

theorem ScanStep.Unescaped.cons {c : Char} (h : step.Unescaped cs) : step.Unescaped (c :: cs) :=
  ⟨h.tokens, h.rest.trans (List.suffix_cons c cs)⟩

theorem PlaceholderStep.unescaped {opened maps : Nat} {c : Char} (hs : '\\' ∉ c :: cs)
    (h : PlaceholderStep size opened maps c cs step) : step.Unescaped (c :: cs) := by
  have hbehind : '\\' ∉ cs := fun hc => hs (List.mem_cons_of_mem c hc)
  cases h with
  | punctuation hk =>
    apply ScanStep.unescaped_singleton (Token.unescaped_of_isMark ?_) (List.suffix_cons c cs)
    unfold punctuationAt? at hk
    split at hk <;> simp at hk <;> obtain ⟨rfl, rfl⟩ := hk <;> rfl
  | quoted hscan => exact (unescaped_of_scanQuotedTokens hbehind hscan).cons
  | comparator relation two =>
    apply ScanStep.unescaped_singleton (Token.unescaped_of_isMark rfl)
    cases two with
    | false => exact List.suffix_cons c cs
    | true => exact (List.tail_suffix cs).trans (List.suffix_cons c cs)
  | number hd hscan => exact unescaped_of_scanNumber hscan
  | negative hc hscan => exact (unescaped_of_scanNumber hscan).cons
  | word hc =>
    apply ScanStep.unescaped_singleton (Token.unescaped_of_ofWord rfl)
    exact (List.dropWhile_suffix isNamePart).trans (List.suffix_cons c cs)

theorem unescaped_of_scanStep {mode : ScanMode} (hs : '\\' ∉ cs)
    (h : scanStep size mode cs = .ok (some step)) : step.Unescaped cs := by
  rcases scanStep_cases h with ⟨-, -, hstep⟩ | ⟨opened, maps, c, ds, -, hd, hstep⟩
  · exact unescaped_of_scanTextStep hs hstep
  · have hsuffix := List.dropWhile_suffix isWhitespace (l := cs)
    rw [hd] at hsuffix
    have hunescaped := hstep.unescaped fun hc => hs (hsuffix.subset hc)
    exact ⟨hunescaped.tokens, hunescaped.rest.trans hsuffix⟩

/-- What is left of characters without backslashes has none, so the fact goes on from step to
    step. -/
theorem unescaped_of_scanTokens {mode : ScanMode} {tokens : List Token} (hs : '\\' ∉ cs)
    (h : scanTokens size mode cs = .ok tokens) : ∀ token ∈ tokens, token.Unescaped := by
  refine scanTokens_induction (motive := fun _ cs tokens =>
    '\\' ∉ cs → ∀ token ∈ tokens, token.Unescaped) ?_ ?_ h hs
  · intro cs _ _
    exact List.forall_mem_singleton.2 (Token.unescaped_of_isMark rfl)
  · intro mode cs step tokens hstep ih hs
    have hunescaped := unescaped_of_scanStep hs hstep
    exact List.forall_mem_append.2
      ⟨hunescaped.tokens, ih fun hc => hs (hunescaped.rest.subset hc)⟩

/-! ### Trees over such tokens -/

/-- The source of a string has no backslash. -/
def SettingValue.Unescaped (value : SettingValue) : Prop :=
  ∀ quoted ∈ value.quoted?, '\\' ∉ quoted.source.toList

/-- The token is what the source says, and there is no backslash in it. -/
def Token.Clean (token : Token) : Prop := token.Written ∧ token.Unescaped

theorem QuotedTree.unescaped {tree : QuotedTree} (h : ∀ token ∈ tree.tokens, token.Clean) :
    (SettingValue.string tree.value).Unescaped := by
  intro quoted hq
  obtain rfl := Option.some.inj hq
  exact (h tree.content (by simp [tokens])).2.source tree.source tree.content_kind

theorem ValueTree.unescaped {tree : ValueTree} (h : ∀ token ∈ tree.tokens, token.Clean) :
    tree.value.Unescaped := by
  cases tree with
  | quoted text => exact QuotedTree.unescaped h
  | number token n kind => simp [SettingValue.Unescaped, value, SettingValue.quoted?]
  | bool token b kind => simp [SettingValue.Unescaped, value, SettingValue.quoted?]
  | word token kind =>
    intro quoted hq
    obtain rfl := Option.some.inj hq
    exact ((h token (by simp [tokens])).1.word (.inl kind)).1.backslash_not_mem

theorem EntryTree.unescaped {tree : EntryTree} (h : ∀ token ∈ tree.tokens, token.Clean) :
    tree.value.Unescaped := by
  cases tree with
  | otherwise colon value =>
    exact ValueTree.unescaped fun token ht => h token (by simp [tokens, ht])
  | bare text => exact QuotedTree.unescaped h
  | keyed key colon value =>
    exact ValueTree.unescaped fun token ht => h token (by simp [tokens, ht])

theorem PlaceTree.unescaped {tree : PlaceTree} (h : ∀ token ∈ tree.tokens, token.Clean) :
    ∀ value ∈ tree.place.settings.values, value.Unescaped := by
  show ∀ value ∈ ((tree.details.settings?.map SettingsTree.settings).getD {}).values,
    value.Unescaped
  intro value hv
  cases hs : tree.details.settings? with
  | none =>
    rw [hs] at hv
    simp [Settings.values] at hv
  | some settings =>
    rw [hs] at hv
    obtain ⟨entry, he, rfl⟩ := SettingsTree.exists_entry hv
    apply EntryTree.unescaped
    intro token ht
    exact h token (tokens_subset hs (SettingsTree.tokens_subset he ht))

/-! ### Messages of templates -/

/-- The texts of the message have no spaces around them, and there are no backslashes in the sources
    of its strings. -/
structure Message.Unescaped (message : Message) : Prop where
  /-- Texts have no spaces around them. -/
  literals : ∀ text, .literal text ∈ message.parts → Unspaced text.text
  /-- There are no backslashes in the sources of strings. -/
  values : ∀ place, .placeholder place ∈ message.parts →
    ∀ value ∈ place.settings.values, value.Unescaped

/-- The message of a template without backslashes is such a message. -/
theorem Template.unescaped_of_parse {source : String} {message : Message}
    (hs : '\\' ∉ source.toList) (h : parse source = .ok message) : message.Unescaped := by
  obtain ⟨tree, ht, -, rfl⟩ := parse?_eq_ok_iff.1 (parse_eq_ok_iff.1 h)
  have hwritten := (textsApart_of_scanTokens ht).written
  have hunescaped := unescaped_of_scanTokens hs ht
  have hclean : ∀ item ∈ tree.items, ∀ token ∈ item.tokens, token.Clean := by
    intro item hi token htoken
    have hmem := TemplateTree.tokens_subset hi htoken
    exact ⟨hwritten token hmem, hunescaped token hmem⟩
  constructor
  · intro text hp
    obtain ⟨token, before, after, kind, hi, htext⟩ := TemplateTree.exists_text hp
    rw [htext]
    exact (hclean _ hi token (List.mem_singleton_self token)).2.text ⟨before, after, kind⟩
  · intro place hp
    obtain ⟨item, hi, -, -, hsettings⟩ := TemplateTree.exists_place hp
    rw [hsettings]
    exact PlaceTree.unescaped (hclean _ hi)

end Phrasebook
