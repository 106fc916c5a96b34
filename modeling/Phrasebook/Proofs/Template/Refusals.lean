import Phrasebook.Proofs.Template.Neighbours
import Phrasebook.Proofs.Template.Places
import Phrasebook.Proofs.Template.Parsing

/-! # Why the reader refuses tokens

    A reader blames some of its tokens for a breach of the grammar (`SyntaxError.Blames`). The causes
    that would blame the scanner instead (a token outside of texts and placeholders, a placeholder that
    does not begin as one, a quote without text or without its partner) have their branches in the
    readers, but no tokens of a template lead there: they are in order, and every reader leaves them
    in order (`consistent_of_tokenize`). -/

namespace Phrasebook

variable {size : Nat} {cause : SyntaxCause} {token : Token} {tokens rest : List Token}

/-! ### Blame -/

/-- The causes that a source can give to a reader: breaches of the grammar of placeholders. -/
def SyntaxCause.isGrammatical : SyntaxCause → Bool
  | .missingName | .invalidName | .closingBraceExpected | .colonExpected | .duplicateElement
  | .invalidComparator _ _ | .comparatorNotAllowed | .missingKey | .missingValue => true
  | _ => false

/-- The error blames a place within a source of `size` characters for a breach of the grammar. -/
structure SyntaxError.Blames (size : Nat) (e : SyntaxError) : Prop where
  /-- The cause is a breach of the grammar. -/
  cause : e.cause.isGrammatical = true
  /-- The place lies within the source. -/
  place : e.span.Within size

/-- Tokens that readers are given: they are in order and lie within the source. -/
structure Readable (size : Nat) (tokens : List Token) : Prop where
  /-- Every token precedes those behind it. -/
  inOrder : InOrder tokens
  /-- Every token lies within the source. -/
  within : ∀ token ∈ tokens, token.span.Within size

theorem readable_of_tokenize {source : String} (h : tokenize source = .ok tokens) :
    Readable source.length tokens :=
  ⟨(inOrder_of_tokenize h).1, within_of_tokenize h⟩

namespace Readable

/-- What a reader leaves is readable if the whole was. -/
theorem behind {front : List Token} (h : Readable size (front ++ rest)) : Readable size rest :=
  ⟨h.inOrder.behind, fun token ht => h.within token (List.mem_append_right front ht)⟩

theorem tail (h : Readable size tokens) : Readable size tokens.tail := by
  cases tokens with
  | nil => exact h
  | cons token rest =>
    have hsplit : Readable size ([token] ++ rest) := h
    exact hsplit.behind

theorem blames (h : Readable size (token :: rest)) (hc : cause.isGrammatical = true) :
    (token.error cause).Blames size :=
  ⟨hc, h.within token List.mem_cons_self⟩

/-- Where there is no token to blame, the beginning of the source is. -/
theorem blames_errorAt (h : Readable size tokens) (hc : cause.isGrammatical = true) :
    (errorAt tokens cause).Blames size := by
  cases tokens with
  | nil => exact ⟨hc, Nat.le_refl 0, Nat.zero_le size⟩
  | cons token rest => exact h.blames hc

theorem failsOnly_expectToken (h : Readable size tokens) (kind : TokenKind)
    (hc : cause.isGrammatical = true) :
    FailsOnly (SyntaxError.Blames size) (expectToken kind cause tokens) := by
  unfold expectToken
  split
  · split
    · exact failsOnly_ok _
    · exact failsOnly_error (h.blames hc)
  · exact failsOnly_error (h.blames_errorAt hc)

/-! ### Values and keys -/

/-- Behind a quote there are always its text and its partner. -/
theorem readQuoted_eq_ok {quote : Quote} (h : Readable size (token :: rest))
    (hk : token.kind = .quoteStart quote) : ∃ r, readQuoted (token :: rest) = .ok r := by
  obtain ⟨content, closing, behind, source, rfl, hcontent, hclosing⟩ :=
    h.inOrder.1.quote quote hk
  let tree : QuotedTree := ⟨token, content, closing, source, ⟨quote, hk⟩, hcontent, ⟨quote, hclosing⟩⟩
  exact ⟨(tree.value, behind), readQuoted_tokens tree behind⟩

theorem failsOnly_readQuoted {quote : Quote} (h : Readable size (token :: rest))
    (hk : token.kind = .quoteStart quote) :
    FailsOnly (SyntaxError.Blames size) (readQuoted (token :: rest)) := by
  obtain ⟨r, hr⟩ := h.readQuoted_eq_ok hk
  rw [hr]
  exact failsOnly_ok r

theorem failsOnly_readValue (h : Readable size tokens) :
    FailsOnly (SyntaxError.Blames size) (readValue tokens) := by
  cases tokens with
  | nil => exact failsOnly_error (h.blames_errorAt rfl)
  | cons token rest =>
    cases hk : token.kind <;> simp only [readValue, hk]
    case quoteStart quote => exact (h.failsOnly_readQuoted hk).map _
    case number | bool | name | null | empty => exact failsOnly_ok _
    -- no other token begins a value
    all_goals exact failsOnly_error (h.blames rfl)

/-- Keywords blame the comparator in front of them. -/
theorem failsOnly_keywordRelation {mark : Option (Token × Comparator)}
    (hmark : ∀ token relation, mark = some (token, relation) → token.span.Within size)
    (word : String) : FailsOnly (SyntaxError.Blames size) (keywordRelation mark word) := by
  unfold keywordRelation
  split
  case h_4 token relation _ _ => exact failsOnly_error ⟨rfl, hmark token relation rfl⟩
  all_goals exact failsOnly_ok _

theorem failsOnly_readKeyBehind {mark : Option (Token × Comparator)}
    (hmark : ∀ token relation, mark = some (token, relation) → token.span.Within size)
    (h : Readable size tokens) : FailsOnly (SyntaxError.Blames size) (readKeyBehind mark tokens) := by
  cases tokens with
  | nil => exact failsOnly_error (h.blames_errorAt rfl)
  | cons token rest =>
    cases hk : token.kind <;> simp only [readKeyBehind, hk]
    case number => exact failsOnly_ok _
    case quoteStart quote => exact (h.failsOnly_readQuoted hk).map _
    case null | empty => exact (failsOnly_keywordRelation hmark token.text).map _
    case bool | name =>
      -- truth values and names are keys without a comparator only
      cases hm : mark with
      | none => exact failsOnly_ok _
      | some mark => exact failsOnly_error ⟨rfl, hmark mark.1 mark.2 hm⟩
    all_goals exact failsOnly_error (h.blames rfl)

theorem failsOnly_readKey (h : Readable size tokens) :
    FailsOnly (SyntaxError.Blames size) (readKey tokens) := by
  obtain ⟨mark, ht, hm⟩ := exists_of_readComparator tokens
  unfold readKey
  simp only [hm]
  rw [ht] at h
  refine failsOnly_readKeyBehind ?_ h.behind
  intro token relation hsome
  cases mark with
  | none => cases hsome
  | some mark =>
    obtain ⟨rfl, rfl⟩ := Prod.mk.inj (Option.some.inj hsome)
    exact h.within mark.token List.mem_cons_self

/-! ### Settings -/

theorem failsOnly_readOtherwise {start : List Token} (hstart : Readable size start)
    (h : Readable size tokens) (settings : Settings SettingValue) :
    FailsOnly (SyntaxError.Blames size) (readOtherwise settings start tokens) := by
  unfold readOtherwise
  split
  · rename_i e he
    exact failsOnly_error (h.failsOnly_readValue e he)
  · split
    · exact failsOnly_error (hstart.blames_errorAt rfl)
    · exact failsOnly_ok _

theorem failsOnly_readEntry (h : Readable size tokens) (settings : Settings SettingValue) :
    FailsOnly (SyntaxError.Blames size) (readEntry settings tokens) := by
  -- an entry blames its own first token for a key that is there twice, and what follows for the rest
  unfold readEntry
  split
  · exact failsOnly_readOtherwise h h.tail settings
  split
  · exact failsOnly_readOtherwise h h settings
  split
  · rename_i e he
    exact failsOnly_error (h.failsOnly_readKey e he)
  · rename_i key behindKey hkey
    obtain ⟨tree, ht, -⟩ := exists_of_readKey hkey
    have hcolon : Readable size behindKey := (ht ▸ h).behind
    split
    · rename_i e he
      exact failsOnly_error (hcolon.failsOnly_expectToken .colon rfl e he)
    · rename_i value hvalue
      obtain ⟨colon, rfl⟩ := exists_leaf_of_expectToken hvalue
      split
      · rename_i e he
        exact failsOnly_error (hcolon.tail.failsOnly_readValue e he)
      · split
        · exact failsOnly_error (h.blames_errorAt rfl)
        · exact failsOnly_ok _

theorem failsOnly_readEntries (stop : TokenKind) (settings : Settings SettingValue)
    (h : Readable size tokens) :
    FailsOnly (SyntaxError.Blames size) (readEntries stop settings tokens) := by
  -- each entry leaves readable tokens for those behind it
  induction settings, tokens using readEntries.induct stop with
  | case1 settings tokens e he =>
    rw [readEntries]
    split
    · rename_i e' he'
      exact failsOnly_error (h.failsOnly_readEntry settings e' he')
    · simp_all
  | case2 settings tokens settings' rest he hc hs =>
    rw [readEntries_eq he, if_pos hc, if_pos hs]
    exact failsOnly_ok _
  | case3 settings tokens settings' rest he hc hs ih =>
    rw [readEntries_eq he, if_pos hc, if_neg hs]
    obtain ⟨tree, rfl, -⟩ := exists_of_readEntry he
    exact ih h.behind.tail
  | case4 settings tokens settings' rest he hc =>
    rw [readEntries_eq he, if_neg hc]
    exact failsOnly_ok _

theorem failsOnly_readSettings (h : Readable size tokens) :
    FailsOnly (SyntaxError.Blames size) (readSettings tokens) := by
  unfold readSettings
  split
  · split
    · rename_i e he
      exact failsOnly_error (failsOnly_readEntries .mapEnd {} h.tail e he)
    · rename_i settings rest he
      obtain ⟨tree, ht, -⟩ := exists_of_readEntries he
      have hclosing : Readable size rest := (ht ▸ h.tail).behind
      exact (hclosing.failsOnly_expectToken .mapEnd rfl).map _
  · exact failsOnly_readEntries .placeholderEnd {} h

/-! ### Placeholders -/

theorem failsOnly_readName (h : Readable size tokens) :
    FailsOnly (SyntaxError.Blames size) (readName tokens) := by
  cases tokens with
  | nil => exact failsOnly_error (h.blames_errorAt rfl)
  | cons token rest =>
    cases hk : token.kind <;> simp only [readName, hk]
    case name | bool | null | empty => exact failsOnly_ok _
    all_goals exact failsOnly_error (h.blames rfl)

theorem failsOnly_readDetails (h : Readable size tokens) :
    FailsOnly (SyntaxError.Blames size) (readDetails tokens) := by
  unfold readDetails
  simp only
  split
  · exact failsOnly_ok _
  split
  · split
    · exact h.tail.tail.tail.failsOnly_readSettings.map _
    · exact failsOnly_ok _
  · exact h.tail.failsOnly_readSettings.map _

theorem failsOnly_readPlaceholder (h : Readable size (token :: rest))
    (hk : token.kind = .placeholderStart) :
    FailsOnly (SyntaxError.Blames size) (readPlaceholder (token :: rest)) := by
  -- the first token is the opening, so only name, details and closing brace are left to fail
  have hname : Readable size rest := h.tail
  unfold readPlaceholder
  rw [expectToken_leaf .placeholderExpected ⟨token, hk⟩ rest]
  simp only
  split
  · rename_i e he
    exact failsOnly_error (hname.failsOnly_readName e he)
  · rename_i name details hread
    obtain ⟨word, rfl, -, -⟩ := kind_of_readName hread
    have hdetails : Readable size details := hname.tail
    split
    · rename_i e he
      exact failsOnly_error (hdetails.failsOnly_readDetails e he)
    · rename_i format settings closing hread'
      obtain ⟨tree, ht, -⟩ := exists_of_readDetails hread'
      have hclosing : Readable size closing := (ht ▸ hdetails).behind
      exact (hclosing.failsOnly_expectToken .placeholderEnd rfl).map _

/-- Behind a placeholder that was read the source goes on outside of placeholders. -/
theorem startsOutside_of_readPlaceholder {place : Placeholder} (h : Readable size tokens)
    (hread : readPlaceholder tokens = .ok (place, rest)) : StartsOutside rest := by
  obtain ⟨tree, rfl, -⟩ := exists_of_readPlaceholder hread
  let front := tree.opening.token :: tree.name :: tree.details.tokens
  have hsplit : tree.tokens ++ rest = front ++ tree.closing.token :: rest := by
    simp [PlaceTree.tokens, front]
  have horder : InOrder (front ++ tree.closing.token :: rest) := hsplit ▸ h.inOrder
  exact horder.precedes.closed tree.closing.kind_eq

/-! ### Templates -/

/-- Between texts and placeholders the reader always stands outside of placeholders: text is
    followed by what does not continue it, and the brace that ends a placeholder ends it for the
    scanner too. -/
theorem failsOnly_readParts (h : Readable size tokens) (hout : StartsOutside tokens) :
    FailsOnly (SyntaxError.Blames size) (readParts tokens) := by
  -- the invariant of the reader: the tokens left are readable and start outside of placeholders
  induction tokens using readParts.induct with
  | case1 =>
    rw [readParts]
    exact failsOnly_ok _
  | case2 token rest hk =>
    rw [readParts]
    simp only [hk]
    exact failsOnly_ok _
  | case3 token rest before after hk ih =>
    obtain ⟨next, more, rfl, hnext⟩ := h.inOrder.1.text ⟨before, after, hk⟩
    rw [readParts]
    simp only [hk]
    exact (ih h.tail ⟨next, more, rfl, .inr hnext⟩).map _
  | case4 token rest hk e he =>
    rw [readParts]
    simp only [hk]
    split
    · rename_i e' he'
      exact failsOnly_error (h.failsOnly_readPlaceholder hk e' he')
    · simp_all
  | case5 token rest hk place rest' hread ih =>
    rw [readParts_eq hk hread]
    have hrest : StartsOutside rest' := h.startsOutside_of_readPlaceholder hread
    obtain ⟨tree, ht, -⟩ := exists_of_readPlaceholder hread
    exact (ih (ht ▸ h).behind hrest).map _
  | case6 token rest heof htext hstart =>
    -- the first token stands outside of placeholders, so it is one of those that are read
    obtain ⟨first, more, hfirst, hkind⟩ := hout
    obtain ⟨rfl, -⟩ := List.cons.inj hfirst
    rcases hkind with ⟨before, after, hk⟩ | hk | hk
    · exact absurd hk (htext before after)
    · exact absurd hk hstart
    · exact absurd hk heof

end Readable

/-- The reader blames a template that it refuses for a breach of the grammar. -/
theorem blames_of_readParts {source : String} {e : SyntaxError} (ht : tokenize source = .ok tokens)
    (h : readParts tokens = .error e) : e.Blames source.length :=
  (readable_of_tokenize ht).failsOnly_readParts (inOrder_of_tokenize ht).2 e h

/-- The tokens of a template keep the promises of their kinds, and reading them takes none of the
    branches for tokens that do not: no token is unexpected outside of placeholders, every
    placeholder begins as one, and quoted text stands between its quotes. -/
theorem consistent_of_tokenize {source : String} (h : tokenize source = .ok tokens) :
    (∀ e, readParts tokens = .error e →
      e.cause ≠ .unexpectedToken ∧ e.cause ≠ .placeholderExpected ∧
        e.cause ≠ .quotedTextExpected ∧ e.cause ≠ .unclosedQuote) ∧
    ∀ front token behind, tokens = front ++ token :: behind → token.Precedes behind := by
  constructor
  · intro e he
    have hcause := (blames_of_readParts h he).cause
    refine ⟨?_, ?_, ?_, ?_⟩ <;> intro hc <;> simp [hc, SyntaxCause.isGrammatical] at hcause
  · rintro front token behind rfl
    exact (inOrder_of_tokenize h).1.precedes

/-- A map where the name belongs: its braces are paired, and the reader blames the first of them. -/
theorem consistent_of_tokenize_map : ∃ tokens, tokenize "%\x7b\x7b\x7d\x7d" = .ok tokens ∧
    readParts tokens = .error ⟨.invalidName, 2, 3⟩ ∧
    ((∀ e, readParts tokens = .error e →
      e.cause ≠ .unexpectedToken ∧ e.cause ≠ .placeholderExpected ∧
        e.cause ≠ .quotedTextExpected ∧ e.cause ≠ .unclosedQuote) ∧
    ∀ front token behind, tokens = front ++ token :: behind → token.Precedes behind) := by
  let scanned : List Token := [⟨.placeholderStart, 0, 2, "%\x7b"⟩, ⟨.mapStart, 2, 3, "\x7b"⟩,
    ⟨.mapEnd, 3, 4, "\x7d"⟩, ⟨.placeholderEnd, 4, 5, "\x7d"⟩, ⟨.eof, 5, 5, ""⟩]
  have ht : tokenize "%\x7b\x7b\x7d\x7d" = .ok scanned := by
    show scanTokens 5 .text ['%', '\x7b', '\x7b', '\x7d', '\x7d'] = _
    refine scanTokens_of_step ⟨[_], .placeholder 0 0, ['\x7b', '\x7d', '\x7d']⟩ rfl ?_
    refine scanTokens_of_step ⟨[_], .placeholder 0 1, ['\x7d', '\x7d']⟩ rfl ?_
    refine scanTokens_of_step ⟨[_], .placeholder 0 0, ['\x7d']⟩ rfl ?_
    exact scanTokens_of_step ⟨[_], .text, []⟩ rfl (scanTokens_of_end rfl)
  have hread : readParts scanned = .error ⟨.invalidName, 2, 3⟩ := by
    rw [readParts]
    rfl
  exact ⟨scanned, ht, hread, consistent_of_tokenize ht⟩

end Phrasebook
