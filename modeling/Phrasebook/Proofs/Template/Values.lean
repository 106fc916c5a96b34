import Phrasebook.Proofs.Template.Grammar

/-! # Values and keys are read by the grammar

    For every reader two lemmas: it reads what a tree derives as what the tree stands for, and
    whatever it reads is derived by a tree. -/

namespace Phrasebook

/-! ### Single tokens -/

theorem startsWith_cons (kind : TokenKind) (token : Token) (rest : List Token) :
    startsWith kind (token :: rest) = decide (token.kind = kind) := by
  rw [Bool.eq_iff_iff]
  simp [startsWith]

theorem exists_leaf_of_startsWith {kind : TokenKind} {tokens : List Token}
    (h : startsWith kind tokens = true) :
    ∃ leaf : Leaf kind, tokens = leaf.token :: tokens.tail := by
  cases tokens with
  | nil => simp [startsWith] at h
  | cons token rest =>
    rw [startsWith_cons, decide_eq_true_eq] at h
    exact ⟨⟨token, h⟩, rfl⟩

theorem startsWith_leaf {kind : TokenKind} (leaf : Leaf kind) (rest : List Token) :
    startsWith kind (leaf.token :: rest) = true := by
  rw [startsWith_cons, decide_eq_true leaf.kind_eq]

theorem ne_cons_of_not_startsWith {kind : TokenKind} {tokens : List Token}
    (h : startsWith kind tokens = false) (leaf : Leaf kind) (rest : List Token) :
    tokens ≠ leaf.token :: rest := by
  rintro rfl
  rw [startsWith_leaf] at h
  cases h

theorem expectToken_leaf {kind : TokenKind} (cause : SyntaxCause) (leaf : Leaf kind)
    (rest : List Token) : expectToken kind cause (leaf.token :: rest) = .ok rest := by
  simp [expectToken, leaf.kind_eq]

theorem exists_leaf_of_expectToken {kind : TokenKind} {cause : SyntaxCause}
    {tokens rest : List Token} (h : expectToken kind cause tokens = .ok rest) :
    ∃ leaf : Leaf kind, tokens = leaf.token :: rest := by
  unfold expectToken at h
  split at h
  · split at h
    · rename_i token rest' hk
      obtain rfl := Except.ok.inj h
      exact ⟨⟨token, hk⟩, rfl⟩
    · simp at h
  · simp at h

theorem startsWith_of_startsWith {kind kind' : TokenKind} {tokens : List Token}
    (h : startsWith kind tokens = true) (hne : kind ≠ kind') : startsWith kind' tokens = false := by
  obtain ⟨leaf, ht⟩ := exists_leaf_of_startsWith h
  rw [ht, startsWith_cons, leaf.kind_eq, decide_eq_false hne]

/-! ### Values -/

theorem readQuoted_tokens (tree : QuotedTree) (rest : List Token) :
    readQuoted (tree.tokens ++ rest) = .ok (tree.value, rest) := by
  obtain ⟨quote, hq⟩ := tree.closing_kind
  have hclosing : tree.closing =
      ⟨.quoteEnd quote, tree.closing.start, tree.closing.stop, tree.closing.text⟩ := by rw [← hq]
  rw [QuotedTree.tokens, hclosing]
  simp only [readQuoted, List.cons_append, List.nil_append, tree.content_kind]
  rfl

theorem exists_of_readQuoted {token : Token} {tokens : List Token} {r : QuotedText × List Token}
    (hq : ∃ quote, token.kind = .quoteStart quote) (h : readQuoted (token :: tokens) = .ok r) :
    ∃ tree : QuotedTree, token :: tokens = tree.tokens ++ r.2 ∧ r.1 = tree.value := by
  unfold readQuoted at h
  split at h
  · rename_i start content rest heq
    obtain ⟨rfl, rfl⟩ := List.cons.inj heq
    split at h
    · rename_i source hc
      split at h
      · obtain rfl := Except.ok.inj h
        exact ⟨⟨token, content, _, source, hq, hc, ⟨_, rfl⟩⟩, rfl, rfl⟩
      · simp at h
    · simp at h
  · simp at h

theorem readValue_tokens (tree : ValueTree) (rest : List Token) :
    readValue (tree.tokens ++ rest) = .ok (tree.value, rest) := by
  cases tree with
  | quoted text =>
    have hr := readQuoted_tokens text rest
    obtain ⟨quote, ho⟩ := text.opening_kind
    simp only [QuotedTree.tokens, List.cons_append] at hr
    simp only [readValue, ValueTree.tokens, QuotedTree.tokens, List.cons_append, ho, hr, Except.map,
      ValueTree.value]
  | number token n kind => simp [readValue, ValueTree.tokens, ValueTree.value, kind]
  | bool token b kind => simp [readValue, ValueTree.tokens, ValueTree.value, kind]
  | word token kind =>
    rcases kind with kind | kind | kind <;>
      simp [readValue, ValueTree.tokens, ValueTree.value, kind]

theorem exists_of_readValue {tokens : List Token} {r : SettingValue × List Token}
    (h : readValue tokens = .ok r) :
    ∃ tree : ValueTree, tokens = tree.tokens ++ r.2 ∧ r.1 = tree.value := by
  cases tokens with
  | nil => simp [readValue] at h
  | cons token rest =>
    -- the kind of the first token decides the rule
    cases hk : token.kind <;> simp only [readValue, hk] at h
    case quoteStart quote =>
      obtain ⟨q, hq, rfl⟩ := exists_of_map_eq_ok h
      obtain ⟨tree, ht, hv⟩ := exists_of_readQuoted ⟨quote, hk⟩ hq
      exact ⟨.quoted tree, ht, by rw [ValueTree.value, ← hv]⟩
    case number n =>
      obtain rfl := Except.ok.inj h
      exact ⟨.number token n hk, rfl, rfl⟩
    case bool b =>
      obtain rfl := Except.ok.inj h
      exact ⟨.bool token b hk, rfl, rfl⟩
    case name =>
      obtain rfl := Except.ok.inj h
      exact ⟨.word token (.inl hk), rfl, rfl⟩
    case null =>
      obtain rfl := Except.ok.inj h
      exact ⟨.word token (.inr (.inl hk)), rfl, rfl⟩
    case empty =>
      obtain rfl := Except.ok.inj h
      exact ⟨.word token (.inr (.inr hk)), rfl, rfl⟩
    all_goals simp at h

/-! ### Keys -/

/-- The comparator as the reader hands it on. -/
def ComparatorTree.read (mark : Option ComparatorTree) : Option (Token × Comparator) :=
  mark.map fun tree => (tree.token, tree.relation)

theorem relation_of_read (mark : Option ComparatorTree) :
    ((ComparatorTree.read mark).map Prod.snd).getD .eq = ComparatorTree.relationOf mark := by
  cases mark <;> rfl

theorem readComparator_tokens (mark : Option ComparatorTree) {token : Token} {rest : List Token}
    (h : ∀ relation, token.kind ≠ .comparator relation) :
    readComparator (ComparatorTree.tokensOf mark ++ token :: rest) =
      (ComparatorTree.read mark, token :: rest) := by
  cases mark with
  | none =>
    show readComparator (token :: rest) = _
    unfold readComparator
    split
    · rename_i token' rest' heq
      obtain ⟨rfl, rfl⟩ := List.cons.inj heq
      split
      · rename_i relation hk
        exact absurd hk (h relation)
      · rfl
    · rename_i heq
      simp at heq
  | some mark =>
    show readComparator (mark.token :: token :: rest) = _
    simp only [readComparator, mark.kind_eq]
    rfl

theorem exists_of_readComparator (tokens : List Token) :
    ∃ mark, tokens = ComparatorTree.tokensOf mark ++ (readComparator tokens).2 ∧
      (readComparator tokens).1 = ComparatorTree.read mark := by
  unfold readComparator
  split
  · rename_i token rest
    split
    · rename_i relation hk
      exact ⟨some ⟨token, relation, hk⟩, rfl, rfl⟩
    · exact ⟨none, rfl, rfl⟩
  · exact ⟨none, rfl, rfl⟩

theorem keywordRelation_read {mark : Option ComparatorTree} (h : ComparatorTree.ForKeyword mark)
    (word : String) :
    keywordRelation (ComparatorTree.read mark) word = .ok (ComparatorTree.relationOf mark) := by
  cases mark with
  | none => rfl
  | some mark =>
    obtain ⟨token, relation, hk⟩ := mark
    rcases h with h | h <;> obtain rfl : relation = _ := h <;> rfl

theorem forKeyword_of_keywordRelation {mark : Option ComparatorTree} {word : String}
    {relation : Comparator} (h : keywordRelation (ComparatorTree.read mark) word = .ok relation) :
    ComparatorTree.ForKeyword mark ∧ relation = ComparatorTree.relationOf mark := by
  cases mark with
  | none => exact ⟨.inl rfl, (Except.ok.inj h).symm⟩
  | some mark =>
    obtain ⟨token, relation', hk⟩ := mark
    cases relation' <;> simp [keywordRelation, ComparatorTree.read] at h
    · exact ⟨.inl rfl, h.symm⟩
    · exact ⟨.inr rfl, h.symm⟩

/-- A key is read behind its comparator. -/
theorem readKey_eq (mark : Option ComparatorTree) {token : Token} (rest : List Token)
    (h : ∀ relation, token.kind ≠ .comparator relation) :
    readKey (ComparatorTree.tokensOf mark ++ token :: rest) =
      readKeyBehind (ComparatorTree.read mark) (token :: rest) := by
  simp only [readKey, readComparator_tokens mark h]

theorem readKey_tokens (tree : KeyTree) (rest : List Token) :
    readKey (tree.tokens ++ rest) = .ok (tree.key, rest) := by
  -- A mark in front is read first and told to whatever key follows; booleans and names take none,
  -- so there the first token is the key.
  cases tree with
  | number mark token n kind =>
    rw [KeyTree.tokens, List.append_assoc, List.singleton_append,
      readKey_eq mark rest (by simp [kind])]
    simp only [readKeyBehind, kind, relation_of_read, KeyTree.key]
  | quoted mark text =>
    obtain ⟨quote, ho⟩ := text.opening_kind
    have hr := readQuoted_tokens text rest
    rw [QuotedTree.tokens, List.cons_append] at hr
    rw [KeyTree.tokens, List.append_assoc, QuotedTree.tokens, List.cons_append,
      readKey_eq mark _ (by simp [ho])]
    simp only [readKeyBehind, ho, hr, Except.map, relation_of_read, KeyTree.key, QuotedTree.value]
  | null mark fine leaf =>
    rw [KeyTree.tokens, List.append_assoc, List.singleton_append,
      readKey_eq mark rest (by simp [leaf.kind_eq])]
    simp only [readKeyBehind, leaf.kind_eq, keywordRelation_read fine, Except.map, KeyTree.key]
  | empty mark fine leaf =>
    rw [KeyTree.tokens, List.append_assoc, List.singleton_append,
      readKey_eq mark rest (by simp [leaf.kind_eq])]
    simp only [readKeyBehind, leaf.kind_eq, keywordRelation_read fine, Except.map, KeyTree.key]
  | bool token b kind =>
    have hk := readKey_eq none rest (by simp [kind] : ∀ relation, token.kind ≠ .comparator relation)
    simp only [readKeyBehind, kind] at hk
    exact hk
  | name leaf =>
    have hk := readKey_eq none rest
      (by simp [leaf.kind_eq] : ∀ relation, leaf.token.kind ≠ .comparator relation)
    simp only [readKeyBehind, leaf.kind_eq] at hk
    exact hk

theorem exists_of_readKey {tokens : List Token} {r : SettingKey × List Token}
    (h : readKey tokens = .ok r) :
    ∃ tree : KeyTree, tokens = tree.tokens ++ r.2 ∧ r.1 = tree.key := by
  obtain ⟨mark, ht, hm⟩ := exists_of_readComparator tokens
  simp only [readKey, hm] at h
  rw [ht]
  cases hb : (readComparator tokens).2 with
  | nil => simp [hb, readKeyBehind] at h
  | cons token rest =>
    rw [hb] at h
    -- behind the comparator, the kind of the token decides the rule
    cases hk : token.kind <;> simp only [readKeyBehind, hk, relation_of_read] at h
    case number n =>
      obtain rfl := Except.ok.inj h
      exact ⟨.number mark token n hk, by simp [KeyTree.tokens], rfl⟩
    case quoteStart quote =>
      obtain ⟨q, hq, rfl⟩ := exists_of_map_eq_ok h
      obtain ⟨tree, htree, hv⟩ := exists_of_readQuoted ⟨quote, hk⟩ hq
      refine ⟨.quoted mark tree, ?_, ?_⟩
      · rw [htree, KeyTree.tokens, List.append_assoc]
      · rw [KeyTree.key, hv]
        rfl
    case null =>
      obtain ⟨relation, hr, rfl⟩ := exists_of_map_eq_ok h
      obtain ⟨fine, rfl⟩ := forKeyword_of_keywordRelation hr
      exact ⟨.null mark fine ⟨token, hk⟩, by simp [KeyTree.tokens], rfl⟩
    case empty =>
      obtain ⟨relation, hr, rfl⟩ := exists_of_map_eq_ok h
      obtain ⟨fine, rfl⟩ := forKeyword_of_keywordRelation hr
      exact ⟨.empty mark fine ⟨token, hk⟩, by simp [KeyTree.tokens], rfl⟩
    case bool b =>
      cases mark with
      | some mark => simp [ComparatorTree.read] at h
      | none =>
        obtain rfl := Except.ok.inj h
        exact ⟨.bool token b hk, rfl, rfl⟩
    case name =>
      cases mark with
      | some mark => simp [ComparatorTree.read] at h
      | none =>
        obtain rfl := Except.ok.inj h
        exact ⟨.name ⟨token, hk⟩, rfl, rfl⟩
    all_goals simp at h

end Phrasebook
