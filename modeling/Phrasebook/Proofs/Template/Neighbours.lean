import Phrasebook.Proofs.Template.Printable

/-! # Which token follows which

    Three kinds of tokens promise something about the tokens behind them: text goes up to a
    placeholder or the end of the source, a quote opens text that the same quote closes, and behind
    the brace that closes a placeholder the source goes on outside of placeholders
    (`Token.Precedes`).

    The scanner keeps all of these promises (`inOrder_of_tokenize`). The last one is where its modes
    matter: a brace closes a placeholder only if no map is open, and then the mode is that of text. -/

namespace Phrasebook

/-! ### Promises of tokens -/

/-- The first of the tokens stands outside of placeholders: it is text, the opening of a placeholder
    or the end of the source. -/
def StartsOutside (tokens : List Token) : Prop :=
  ∃ first rest, tokens = first :: rest ∧
    (first.IsText ∨ first.kind = .placeholderStart ∨ first.kind = .eof)

/-- The tokens behind a token are such as its kind promises. -/
structure Token.Precedes (token : Token) (behind : List Token) : Prop where
  /-- Text goes up to a placeholder or the end of the source. -/
  text : token.IsText → ∃ next rest, behind = next :: rest ∧
    (next.kind = .placeholderStart ∨ next.kind = .eof)
  /-- A quote opens text that the same quote closes. -/
  quote : ∀ quote, token.kind = .quoteStart quote → ∃ content closing rest source,
    behind = content :: closing :: rest ∧ content.kind = .quotedText source ∧
      closing.kind = .quoteEnd quote
  /-- Behind a closed placeholder the source goes on outside of placeholders. -/
  closed : token.kind = .placeholderEnd → StartsOutside behind

/-- Every token precedes the tokens behind it. -/
def InOrder : List Token → Prop
  | [] => True
  | token :: behind => token.Precedes behind ∧ InOrder behind

theorem InOrder.behind {front behind : List Token} (h : InOrder (front ++ behind)) :
    InOrder behind := by
  induction front with
  | nil => exact h
  | cons token front ih => exact ih h.2

theorem InOrder.precedes {front behind : List Token} {token : Token}
    (h : InOrder (front ++ token :: behind)) : token.Precedes behind :=
  h.behind.1

/-- The kinds of tokens that promise nothing. -/
def TokenKind.isFree : TokenKind → Bool
  | .text _ _ | .quoteStart _ | .placeholderEnd => false
  | _ => true

theorem Token.precedes_of_isFree {token : Token} (h : token.kind.isFree = true)
    (behind : List Token) : token.Precedes behind := by
  constructor
  · rintro ⟨before, after, hk⟩
    simp [hk, TokenKind.isFree] at h
  · intro quote hk
    simp [hk, TokenKind.isFree] at h
  · intro hk
    simp [hk, TokenKind.isFree] at h

/-! ### What a step reads -/

theorem isFree_ofWord (word : String) : (TokenKind.ofWord word).isFree = true := by
  rcases TokenKind.ofWord_cases word with (hk | hk | hk) | ⟨b, hk⟩ <;> rw [hk] <;> rfl

/-- A brace that closes a placeholder is followed by text; other marks promise nothing. -/
theorem precedes_of_punctuation {c : Char} {opened maps : Nat} {kind : TokenKind} {mode : ScanMode}
    {token : Token} {behind : List Token} (hp : punctuationAt? c opened maps = some (kind, mode))
    (hk : token.kind = kind) (hout : mode = .text → StartsOutside behind) :
    token.Precedes behind := by
  by_cases hend : kind = .placeholderEnd
  · subst hend
    have hmode : mode = .text := by
      unfold punctuationAt? at hp
      split at hp <;> simp at hp
      exact hp.symm
    constructor
    · rintro ⟨before, after, ht⟩
      cases hk.symm.trans ht
    · intro quote hq
      cases hk.symm.trans hq
    · exact fun _ => hout hmode
  · apply Token.precedes_of_isFree
    rw [hk]
    unfold punctuationAt? at hp
    split at hp <;> simp at hp <;> obtain ⟨rfl, -⟩ := hp
    · rfl
    · exact absurd rfl hend
    all_goals rfl

theorem inOrder_of_scanQuotedTokens {size : Nat} {quote : Quote} {opening content rest : List Char}
    {tokens behind : List Token} (h : scanQuotedTokens size quote opening content = .ok (tokens, rest))
    (hb : InOrder behind) : InOrder (tokens ++ behind) := by
  unfold scanQuotedTokens at h
  obtain ⟨⟨text, closing⟩, -, hboth⟩ := exists_of_map_eq_ok h
  obtain ⟨rfl, -⟩ := Prod.mk.inj hboth
  refine ⟨?_, Token.precedes_of_isFree rfl _, Token.precedes_of_isFree rfl _, hb⟩
  -- of the three tokens only the first one promises something: the other two
  constructor
  · rintro ⟨before, after, ht⟩
    cases ht
  · intro other hq
    obtain rfl := TokenKind.quoteStart.inj hq
    exact ⟨_, _, behind, _, rfl, rfl, rfl⟩
  · intro hk
    cases hk

theorem PlaceholderStep.inOrder {size opened maps : Nat} {c : Char} {cs : List Char}
    {step : ScanStep} {behind : List Token} (h : PlaceholderStep size opened maps c cs step)
    (hb : InOrder behind) (hout : step.mode = .text → StartsOutside behind) :
    InOrder (step.tokens ++ behind) := by
  cases h with
  | punctuation hk => exact ⟨precedes_of_punctuation hk rfl hout, hb⟩
  | quoted hs => exact inOrder_of_scanQuotedTokens hs hb
  | comparator relation two => exact ⟨Token.precedes_of_isFree rfl _, hb⟩
  | number hd hs =>
    obtain ⟨-, n, rfl⟩ := scanNumber_eq_ok hs
    exact ⟨Token.precedes_of_isFree rfl _, hb⟩
  | negative hc hs =>
    obtain ⟨-, n, rfl⟩ := scanNumber_eq_ok hs
    exact ⟨Token.precedes_of_isFree rfl _, hb⟩
  | word hc => exact ⟨Token.precedes_of_isFree (isFree_ofWord _) _, hb⟩

/-- A step in literal text reads a token that stands outside of placeholders. If it is text, the
    token behind it is no text, since text is read up to where it ends. -/
theorem inOrder_of_scanTextStep {size : Nat} {cs : List Char} {step : ScanStep}
    {behind : List Token} (h : scanTextStep size cs = .ok step)
    (hr : scanTokens size step.mode step.rest = .ok behind) (hb : InOrder behind)
    (hout : step.mode = .text → StartsOutside behind) :
    InOrder (step.tokens ++ behind) ∧ StartsOutside (step.tokens ++ behind) := by
  unfold scanTextStep at h
  split at h
  · obtain rfl := Except.ok.inj h
    exact ⟨⟨Token.precedes_of_isFree rfl _, hb⟩, _, behind, rfl, .inr (.inl rfl)⟩
  · obtain ⟨run, hrun, rfl⟩ := exists_of_map_eq_ok h
    have hstop := endsText_of_scanText hrun
    obtain ⟨next, rest, rfl, hnext⟩ := hout rfl
    have hplain : ¬ next.IsText := by
      intro htext
      exact ((textsApart_of_scanTokens hr).first next rfl htext).2 hstop
    refine ⟨⟨?_, hb⟩, _, next :: rest, rfl, .inl ⟨_, _, rfl⟩⟩
    constructor
    · intro _
      exact ⟨next, rest, rfl, hnext.resolve_left hplain⟩
    · intro quote hq
      cases hq
    · intro hk
      cases hk

/-! ### The whole source -/

theorem inOrder_of_scanTokens {size : Nat} {mode : ScanMode} {cs : List Char} {tokens : List Token}
    (h : scanTokens size mode cs = .ok tokens) :
    InOrder tokens ∧ (mode = .text → StartsOutside tokens) := by
  -- where a text ends is known from what is scanned behind it, so the induction carries the scan
  refine (scanTokens_induction (motive := fun mode cs tokens => scanTokens size mode cs = .ok tokens ∧
    InOrder tokens ∧ (mode = .text → StartsOutside tokens)) ?_ ?_ h).2
  · intro cs hs
    refine ⟨scanTokens_of_end hs, ⟨Token.precedes_of_isFree rfl _, trivial⟩, ?_⟩
    intro _
    exact ⟨_, [], rfl, .inr (.inr rfl)⟩
  · rintro mode cs step tokens hs ⟨hr, hb, hout⟩
    refine ⟨scanTokens_of_step step hs hr, ?_⟩
    rcases scanStep_cases hs with ⟨rfl, -, htext⟩ | ⟨opened, maps, c, ds, rfl, -, hplace⟩
    · obtain ⟨horder, hstart⟩ := inOrder_of_scanTextStep htext hr hb hout
      exact ⟨horder, fun _ => hstart⟩
    · exact ⟨hplace.inOrder hb hout, fun hmode => by cases hmode⟩

/-- The tokens of a template are in order, and begin outside of placeholders. -/
theorem inOrder_of_tokenize {source : String} {tokens : List Token}
    (h : tokenize source = .ok tokens) : InOrder tokens ∧ StartsOutside tokens := by
  obtain ⟨horder, hstart⟩ := inOrder_of_scanTokens h
  exact ⟨horder, hstart rfl⟩

end Phrasebook
