import Phrasebook.Proofs.Text.Escapes

/-! # What scanning yields

    One step of the scanner reads a `Lexeme`: a single token, or quoted text between its quotes. The
    tokens of a template are lexemes and the end of the source behind them, which stands there once.
    Words and quoted texts are what their sources stand for. -/

namespace Phrasebook

/-- The kinds of tokens that stand alone: all but those of quoted text and the end of the source. -/
def TokenKind.isSingle : TokenKind → Bool
  | .quoteStart _ | .quotedText _ | .quoteEnd _ | .eof => false
  | _ => true

/-- The kinds of words: names and the keywords for null and empty values. -/
def TokenKind.IsWord (kind : TokenKind) : Prop := kind = .name ∨ kind = .null ∨ kind = .empty

/-- Tokens that one step reads. -/
inductive Lexeme : List Token → Prop
  /-- A single token; a word consists of the characters of names. -/
  | single {token : Token} (kind : token.kind.isSingle = true)
      (word : token.kind.IsWord → ∀ c ∈ token.text.toList, isNamePart c = true) :
      Lexeme [token]
  /-- Quoted text between its quotes. -/
  | quoted {opening content closing : Token} {quote : Quote} {source : String}
      (opening_kind : opening.kind = .quoteStart quote)
      (content_kind : content.kind = .quotedText source)
      (closing_kind : closing.kind = .quoteEnd quote) (faithful : content.text = unescape source) :
      Lexeme [opening, content, closing]

/-! ### Steps -/

/-- A single token that is no word. -/
theorem Lexeme.mark {token : Token} (kind : token.kind.isSingle = true)
    (noWord : ¬ token.kind.IsWord) : Lexeme [token] :=
  .single kind fun h => absurd h noWord

theorem isSingle_ofWord (word : String) : (TokenKind.ofWord word).isSingle = true := by
  unfold TokenKind.ofWord
  split
  · rfl
  split
  · rfl
  split
  · rfl
  split <;> rfl

theorem lexeme_of_scanTextStep {size : Nat} {cs : List Char} {step : ScanStep}
    (h : scanTextStep size cs = .ok step) : Lexeme step.tokens := by
  unfold scanTextStep at h
  split at h
  · obtain rfl := Except.ok.inj h
    exact .mark rfl (by simp [TokenKind.IsWord, Token.between])
  · obtain ⟨run, hs, rfl⟩ := exists_of_map_eq_ok h
    exact .mark rfl (by simp [TokenKind.IsWord, Token.between])

theorem lexeme_of_scanQuotedTokens {size : Nat} {quote : Quote} {opening content rest : List Char}
    {tokens : List Token} (h : scanQuotedTokens size quote opening content = .ok (tokens, rest)) :
    Lexeme tokens := by
  unfold scanQuotedTokens at h
  obtain ⟨⟨text, closing⟩, hs, htokens⟩ := exists_of_map_eq_ok h
  obtain ⟨source, hsource, htext⟩ := unescapeChars_of_scanQuoted hs
  obtain ⟨rfl, -⟩ := Prod.mk.inj htokens
  refine .quoted rfl rfl rfl ?_
  -- the source of the text is what stands in front of the closing quote
  have htake : content.take (content.length - closing.length) = source := by
    rw [hsource, List.length_append, Nat.add_sub_cancel, List.take_left' rfl]
  show String.ofList text = unescape (String.ofList _)
  rw [unescape, String.toList_ofList, htake, htext]

theorem lexeme_of_scanNumber {size : Nat} {negative : Bool} {cs digits rest : List Char}
    {token : Token} (h : scanNumber size negative cs digits = .ok (token, rest)) :
    Lexeme [token] := by
  obtain ⟨-, n, rfl⟩ := scanNumber_eq_ok h
  exact .mark rfl (by simp [TokenKind.IsWord, Token.between])

theorem PlaceholderStep.lexeme {size opened maps : Nat} {c : Char} {cs : List Char}
    {step : ScanStep} (h : PlaceholderStep size opened maps c cs step) : Lexeme step.tokens := by
  cases h with
  | punctuation hk =>
    -- every mark of the table is a lexeme of its own
    unfold punctuationAt? at hk
    split at hk <;> simp at hk <;> obtain ⟨rfl, rfl⟩ := hk <;>
      exact .mark rfl (by simp [TokenKind.IsWord, Token.between])
  | quoted hs => exact lexeme_of_scanQuotedTokens hs
  | comparator relation two => exact .mark rfl (by simp [TokenKind.IsWord, Token.between])
  | number hd hs => exact lexeme_of_scanNumber hs
  | negative hc hs => exact lexeme_of_scanNumber hs
  | word hc =>
    -- a word is the only lexeme whose characters matter later on
    refine .single (isSingle_ofWord _) fun _ => ?_
    show ∀ d ∈ (String.ofList (c :: cs.takeWhile isNamePart)).toList, isNamePart d = true
    rw [String.toList_ofList, List.forall_mem_cons]
    exact ⟨isNamePart_of_isNameStart hc, List.all_eq_true.1 List.all_takeWhile⟩

/-- Whatever the mode, a step reads one lexeme. -/
theorem lexeme_of_scanStep {size : Nat} {mode : ScanMode} {cs : List Char} {step : ScanStep}
    (h : scanStep size mode cs = .ok (some step)) : Lexeme step.tokens := by
  rcases scanStep_cases h with ⟨-, -, hs⟩ | ⟨opened, maps, c, ds, -, -, hs⟩
  · exact lexeme_of_scanTextStep hs
  · exact hs.lexeme

/-! ### The whole source -/

/-- Lexemes with the end of the source behind them. -/
def IsScanned (tokens : List Token) : Prop :=
  ∃ (lexemes : List (List Token)) (ending : Token),
    tokens = lexemes.flatten ++ [ending] ∧ ending.kind = .eof ∧ ∀ lexeme ∈ lexemes, Lexeme lexeme

/-- The tokens of a step stand in front of those that are scanned behind it. -/
theorem scanTokens_of_step {size : Nat} {mode : ScanMode} {cs : List Char} {tokens : List Token}
    (step : ScanStep) (h : scanStep size mode cs = .ok (some step))
    (hr : scanTokens size step.mode step.rest = .ok tokens) :
    scanTokens size mode cs = .ok (step.tokens ++ tokens) := by
  rw [scanTokens_eq_map h, hr]
  rfl

theorem isScanned_of_scanTokens {size : Nat} {mode : ScanMode} {cs : List Char}
    {tokens : List Token} (h : scanTokens size mode cs = .ok tokens) : IsScanned tokens := by
  refine scanTokens_induction (motive := fun _ _ tokens => IsScanned tokens) ?_ ?_ h
  · intro cs hs
    -- the characters ran out between placeholders, so the ending is all there is
    exact ⟨[], ⟨.eof, size, size, ""⟩, rfl, rfl, by simp⟩
  · rintro mode cs step tokens hs ⟨lexemes, ending, rfl, hend, hall⟩
    refine ⟨step.tokens :: lexemes, ending, by simp, hend, ?_⟩
    exact List.forall_mem_cons.2 ⟨lexeme_of_scanStep hs, hall⟩

theorem isScanned_of_tokenize {source : String} {tokens : List Token}
    (h : tokenize source = .ok tokens) : IsScanned tokens :=
  isScanned_of_scanTokens h

/-- The end of the source is no token of a lexeme. -/
theorem Lexeme.kind_ne_eof {tokens : List Token} (h : Lexeme tokens) :
    ∀ token ∈ tokens, token.kind ≠ .eof := by
  cases h with
  | single kind word =>
    intro token ht heof
    obtain rfl := List.mem_singleton.1 ht
    simp [heof, TokenKind.isSingle] at kind
  | quoted ho hc hcl _ =>
    intro token ht heof
    rcases List.mem_cons.1 ht with rfl | ht
    · simp [ho] at heof
    rcases List.mem_cons.1 ht with rfl | ht
    · simp [hc] at heof
    · obtain rfl := List.mem_singleton.1 ht
      simp [hcl] at heof

/-- The end of the source is the last token and no other one. -/
theorem IsScanned.exists_ending {tokens : List Token} (h : IsScanned tokens) :
    ∃ (front : List Token) (ending : Token), tokens = front ++ [ending] ∧ ending.kind = .eof ∧
      ∀ token ∈ front, token.kind ≠ .eof := by
  obtain ⟨lexemes, ending, rfl, hend, hall⟩ := h
  refine ⟨lexemes.flatten, ending, rfl, hend, fun token ht => ?_⟩
  obtain ⟨lexeme, hl, ht⟩ := List.mem_flatten.1 ht
  exact (hall lexeme hl).kind_ne_eof token ht

/-! ### Sources and texts -/

/-- The text of a token that may become a string is what its source stands for. -/
def Token.Faithful (token : Token) : Prop :=
  (∀ source, token.kind = .quotedText source → token.text = unescape source) ∧
    (token.kind.IsWord → token.text = unescape token.text)

theorem not_isNamePart_backslash : isNamePart '\\' = false := by decide

theorem Lexeme.faithful {tokens : List Token} (h : Lexeme tokens) :
    ∀ token ∈ tokens, token.Faithful := by
  cases h with
  | single kind word =>
    intro token ht
    obtain rfl := List.mem_singleton.1 ht
    refine ⟨fun source hk => ?_, fun hw => ?_⟩
    · simp [hk, TokenKind.isSingle] at kind
    · -- no backslash is a character of names, so there is nothing to resolve
      refine (unescape_of_not_mem fun hmem => ?_).symm
      have := word hw _ hmem
      simp [not_isNamePart_backslash] at this
  | @quoted opening content closing quote source ho hc hcl hf =>
    intro token ht
    rcases List.mem_cons.1 ht with rfl | ht
    · exact ⟨by simp [ho], by simp [ho, TokenKind.IsWord]⟩
    rcases List.mem_cons.1 ht with rfl | ht
    · refine ⟨fun source' hk => ?_, by simp [hc, TokenKind.IsWord]⟩
      obtain rfl : source = source' := TokenKind.quotedText.inj (hc.symm.trans hk)
      -- of the three tokens only the one between the quotes has escapes in it
      exact hf
    · obtain rfl := List.mem_singleton.1 ht
      exact ⟨by simp [hcl], by simp [hcl, TokenKind.IsWord]⟩

theorem IsScanned.faithful {tokens : List Token} (h : IsScanned tokens) :
    ∀ token ∈ tokens, token.Faithful := by
  obtain ⟨lexemes, ending, rfl, hend, hall⟩ := h
  intro token ht
  rcases List.mem_append.1 ht with ht | ht
  · obtain ⟨lexeme, hl, ht⟩ := List.mem_flatten.1 ht
    exact (hall lexeme hl).faithful token ht
  · obtain rfl := List.mem_singleton.1 ht
    exact ⟨by simp [hend], by simp [hend, TokenKind.IsWord]⟩

end Phrasebook
