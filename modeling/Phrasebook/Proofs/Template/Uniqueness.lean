import Phrasebook.Proofs.Template.Parts

/-! # Derivations are unique

    Trees that derive the same tokens are the same tree. Readers tell where keys, values and entries
    end; what is left is to tell the rules apart by the kinds of their tokens. A quoted text may
    begin an entry with a key, and a comma may be the last one, so entries are compared in front of
    a token that can not go on with them. -/

namespace Phrasebook

theorem Leaf.eq_of_token_eq {kind : TokenKind} {a b : Leaf kind} (h : a.token = b.token) :
    a = b := by
  cases a
  cases b
  cases h
  rfl

/-! ### Values and keys -/

theorem QuotedTree.eq_of_tokens_eq {a b : QuotedTree} (h : a.tokens = b.tokens) : a = b := by
  obtain ⟨opening, content, closing, source, ho, hc, hcl⟩ := a
  obtain ⟨opening', content', closing', source', ho', hc', hcl'⟩ := b
  simp only [tokens, List.cons.injEq, and_true] at h
  obtain ⟨rfl, rfl, rfl⟩ := h
  obtain rfl : source = source' := TokenKind.quotedText.inj (hc.symm.trans hc')
  rfl

theorem ValueTree.eq_of_tokens_eq {a b : ValueTree} (h : a.tokens = b.tokens) : a = b := by
  -- both are read as the same value, so they are of one rule
  have hv : a.value = b.value := by
    have ha := readValue_tokens a []
    rw [h, readValue_tokens b []] at ha
    exact (Prod.mk.inj (Except.ok.inj ha)).1.symm
  cases a <;> cases b <;> simp only [value, SettingValue.number.injEq, SettingValue.bool.injEq,
    reduceCtorEq] at hv
  case quoted.quoted text text' => rw [QuotedTree.eq_of_tokens_eq h]
  case number.number token n kind token' n' kind' =>
    subst hv
    obtain rfl := (List.cons.inj h).1
    rfl
  case bool.bool token b kind token' b' kind' =>
    subst hv
    obtain rfl := (List.cons.inj h).1
    rfl
  case word.word token kind token' kind' =>
    obtain rfl := (List.cons.inj h).1
    rfl
  all_goals simp [tokens, QuotedTree.tokens] at h

/-- A value ends where its tokens do, whatever follows. -/
theorem ValueTree.eq_of_append_eq {a b : ValueTree} {r s : List Token}
    (h : a.tokens ++ r = b.tokens ++ s) : a = b ∧ r = s := by
  have ha := readValue_tokens a r
  rw [h, readValue_tokens b s] at ha
  obtain rfl := (Prod.mk.inj (Except.ok.inj ha)).2
  exact ⟨eq_of_tokens_eq (List.append_cancel_right h), rfl⟩

theorem ComparatorTree.eq_of_tokensOf_eq {a b : Option ComparatorTree}
    (h : tokensOf a = tokensOf b) : a = b := by
  rcases a with _ | ⟨token, relation, kind⟩ <;> rcases b with _ | ⟨token', relation', kind'⟩ <;>
    simp [tokensOf] at h
  · rfl
  · subst h
    obtain rfl : relation = relation' := TokenKind.comparator.inj (kind.symm.trans kind')
    rfl

theorem KeyTree.eq_of_tokens_eq {a b : KeyTree} (h : a.tokens = b.tokens) : a = b := by
  -- both are read as the same key, so they are of one rule
  have hk : a.key = b.key := by
    have ha := readKey_tokens a []
    rw [h, readKey_tokens b []] at ha
    exact (Prod.mk.inj (Except.ok.inj ha)).1.symm
  cases a <;> cases b <;> simp only [key, SettingKey.number.injEq, SettingKey.bool.injEq,
    reduceCtorEq] at hk
  case number.number mark token n kind mark' token' n' kind' =>
    obtain ⟨-, rfl⟩ := hk
    obtain ⟨hmark, ht⟩ := List.append_inj' h rfl
    obtain rfl := ComparatorTree.eq_of_tokensOf_eq hmark
    obtain rfl := (List.cons.inj ht).1
    rfl
  case quoted.quoted mark text mark' text' =>
    obtain ⟨hmark, ht⟩ := List.append_inj' h rfl
    rw [ComparatorTree.eq_of_tokensOf_eq hmark, QuotedTree.eq_of_tokens_eq ht]
  case null.null mark fine leaf mark' fine' leaf' =>
    obtain ⟨hmark, ht⟩ := List.append_inj' h rfl
    obtain rfl := ComparatorTree.eq_of_tokensOf_eq hmark
    rw [Leaf.eq_of_token_eq (List.cons.inj ht).1]
  case empty.empty mark fine leaf mark' fine' leaf' =>
    obtain ⟨hmark, ht⟩ := List.append_inj' h rfl
    obtain rfl := ComparatorTree.eq_of_tokensOf_eq hmark
    rw [Leaf.eq_of_token_eq (List.cons.inj ht).1]
  case bool.bool token b kind token' b' kind' =>
    subst hk
    obtain rfl := (List.cons.inj h).1
    rfl
  case name.name leaf leaf' => rw [Leaf.eq_of_token_eq (List.cons.inj h).1]

theorem KeyTree.eq_of_append_eq {a b : KeyTree} {r s : List Token}
    (h : a.tokens ++ r = b.tokens ++ s) : a = b ∧ r = s := by
  have ha := readKey_tokens a r
  rw [h, readKey_tokens b s] at ha
  obtain rfl := (Prod.mk.inj (Except.ok.inj ha)).2
  exact ⟨eq_of_tokens_eq (List.append_cancel_right h), rfl⟩

/-! ### Entries and settings -/

/-- Nothing keeps an entry out of empty settings. -/
theorem EntryTree.addTo_empty (tree : EntryTree) : ∃ settings, tree.addTo {} = .ok settings := by
  cases tree <;> exact ⟨_, rfl⟩

/-- An entry ends where no colon follows. -/
theorem EntryTree.eq_of_append_eq {a b : EntryTree} {r s : List Token}
    (hr : startsWith .colon r = false) (hs : startsWith .colon s = false)
    (h : a.tokens ++ r = b.tokens ++ s) : a = b ∧ r = s := by
  -- both are read, into empty settings, and leave the same tokens
  obtain ⟨settings, ha⟩ := a.addTo_empty
  obtain ⟨settings', hb⟩ := b.addTo_empty
  have hread := readEntry_tokens ha hr
  rw [h, readEntry_tokens hb hs] at hread
  obtain ⟨rfl, rfl⟩ := Prod.mk.inj (Except.ok.inj hread)
  have ht := List.append_cancel_right h
  refine ⟨?_, rfl⟩
  cases a <;> cases b
  case otherwise.otherwise colon value colon' value' =>
    obtain ⟨hc, hv⟩ := List.cons.inj ht
    rw [Leaf.eq_of_token_eq hc, ValueTree.eq_of_tokens_eq hv]
  case bare.bare text text' => rw [QuotedTree.eq_of_tokens_eq ht]
  case keyed.keyed key colon value key' colon' value' =>
    obtain ⟨rfl, hrest⟩ := KeyTree.eq_of_append_eq ht
    obtain ⟨hc, hv⟩ := List.cons.inj hrest
    rw [Leaf.eq_of_token_eq hc, ValueTree.eq_of_tokens_eq hv]
  case otherwise.bare colon value text =>
    exact absurd h.symm (ne_cons_of_not_startsWith (text.startsWith_colon _) colon _)
  case bare.otherwise text colon value =>
    exact absurd h (ne_cons_of_not_startsWith (text.startsWith_colon _) colon _)
  -- an entry with a key leaves other settings than a value for everything else
  all_goals
    obtain rfl := Except.ok.inj ha
    simp [addTo, Settings.setOtherwise, Settings.insert, Settings.get?] at hb

/-- Entries end where a brace follows. -/
theorem EntriesTree.eq_of_append_eq {a b : EntriesTree} {r s : List Token} {stop : TokenKind}
    (hstop : stop.IsBrace) (hr : startsWith stop r = true) (hs : startsWith stop s = true)
    (h : a.tokens ++ r = b.tokens ++ s) : a = b ∧ r = s := by
  -- Both ways to split the tokens agree on the first entry, so they can differ only in what is
  -- behind it: the brace, a comma and the brace, or a comma and more entries.
  have hcolon {tokens : List Token} (ht : startsWith stop tokens = true) :
      startsWith .colon tokens = false :=
    not_startsWith_of_brace hstop ht TokenKind.not_isBrace_colon
  have hcomma {tokens : List Token} (comma : Leaf .comma) (rest : List Token)
      (ht : startsWith stop tokens = true) : tokens ≠ comma.token :: rest := by
    have hno := not_startsWith_of_brace hstop ht TokenKind.not_isBrace_comma
    exact ne_cons_of_not_startsWith hno comma rest
  have hleaf (comma : Leaf .comma) (rest : List Token) :
      startsWith .colon (comma.token :: rest) = false :=
    startsWith_of_startsWith (startsWith_leaf comma rest) (by simp)
  have hmore {tokens : List Token} (tree : EntriesTree) (rest : List Token)
      (ht : startsWith stop tokens = true) : tokens ≠ tree.tokens ++ rest := by
    rintro rfl
    rw [tree.startsWith_brace rest hstop] at ht
    simp at ht
  induction a generalizing b with
  -- the brace follows at once
  | last entry =>
    cases b with
    | last entry' =>
      obtain ⟨rfl, rfl⟩ := EntryTree.eq_of_append_eq (hcolon hr) (hcolon hs) h
      exact ⟨rfl, rfl⟩
    | closed entry' comma' =>
      rw [tokens, tokens, List.append_assoc] at h
      exact absurd (EntryTree.eq_of_append_eq (hcolon hr) (hleaf comma' s) h).2 (hcomma _ _ hr)
    | more entry' comma' tree' =>
      rw [tokens, tokens, List.append_assoc] at h
      exact absurd (EntryTree.eq_of_append_eq (hcolon hr) (hleaf comma' _) h).2 (hcomma _ _ hr)
  -- the comma is the last token of the entries
  | closed entry comma =>
    rw [tokens, List.append_assoc] at h
    cases b with
    | last entry' =>
      exact absurd (EntryTree.eq_of_append_eq (hleaf comma r) (hcolon hs) h).2.symm
        (hcomma _ _ hs)
    | closed entry' comma' =>
      rw [tokens, List.append_assoc] at h
      obtain ⟨rfl, hrest⟩ := EntryTree.eq_of_append_eq (hleaf comma r) (hleaf comma' s) h
      obtain ⟨hc, rfl⟩ := List.cons.inj hrest
      rw [Leaf.eq_of_token_eq hc]
      exact ⟨rfl, rfl⟩
    | more entry' comma' tree' =>
      rw [tokens, List.append_assoc] at h
      have hrest := (EntryTree.eq_of_append_eq (hleaf comma r) (hleaf comma' _) h).2
      exact absurd (List.cons.inj hrest).2 (hmore tree' s hr)
  -- the comma is followed by entries, for which the induction hypothesis speaks
  | more entry comma tree ih =>
    rw [tokens, List.append_assoc] at h
    cases b with
    | last entry' =>
      exact absurd (EntryTree.eq_of_append_eq (hleaf comma _) (hcolon hs) h).2.symm
        (hcomma _ _ hs)
    | closed entry' comma' =>
      rw [tokens, List.append_assoc] at h
      have hrest := (EntryTree.eq_of_append_eq (hleaf comma _) (hleaf comma' s) h).2
      exact absurd (List.cons.inj hrest).2.symm (hmore tree r hs)
    | more entry' comma' tree' =>
      rw [tokens, List.append_assoc] at h
      obtain ⟨rfl, hrest⟩ := EntryTree.eq_of_append_eq (hleaf comma _) (hleaf comma' _) h
      obtain ⟨hc, hrest⟩ := List.cons.inj hrest
      obtain ⟨rfl, rfl⟩ := ih hrest
      rw [Leaf.eq_of_token_eq hc]
      exact ⟨rfl, rfl⟩

/-- Settings end where the placeholder does. -/
theorem SettingsTree.eq_of_append_eq {a b : SettingsTree} {r s : List Token}
    (hr : startsWith .placeholderEnd r = true) (hs : startsWith .placeholderEnd s = true)
    (h : a.tokens ++ r = b.tokens ++ s) : a = b ∧ r = s := by
  -- no entry begins with the brace that opens the braced form
  have hmixed (opening : Leaf .mapStart) (rest : List Token) (tree : EntriesTree)
      (more : List Token) : opening.token :: rest ≠ tree.tokens ++ more :=
    (ne_cons_of_not_startsWith (tree.startsWith_brace more (.inl rfl)) opening rest).symm
  cases a with
  | braced opening entries closing =>
    cases b with
    | braced opening' entries' closing' =>
      simp only [tokens, List.cons_append, List.append_assoc, List.cons.injEq] at h
      obtain ⟨ho, hrest⟩ := h
      obtain ⟨rfl, hend⟩ := EntriesTree.eq_of_append_eq (.inr (.inl rfl))
        (startsWith_leaf closing r) (startsWith_leaf closing' s) hrest
      obtain ⟨hc, rfl⟩ := List.cons.inj hend
      rw [Leaf.eq_of_token_eq ho, Leaf.eq_of_token_eq hc]
      exact ⟨rfl, rfl⟩
    | plain entries' => exact absurd h (hmixed opening _ entries' s)
  | plain entries =>
    cases b with
    | braced opening' entries' closing' => exact absurd h.symm (hmixed opening' _ entries r)
    | plain entries' =>
      obtain ⟨rfl, rfl⟩ := EntriesTree.eq_of_append_eq (.inr (.inr rfl)) hr hs h
      exact ⟨rfl, rfl⟩

/-! ### Placeholders and templates -/

theorem DetailsTree.eq_of_append_eq {a b : DetailsTree} {r s : List Token}
    (hr : startsWith .placeholderEnd r = true) (hs : startsWith .placeholderEnd s = true)
    (h : a.tokens ++ r = b.tokens ++ s) : a = b ∧ r = s := by
  have hcomma {tokens : List Token} (comma : Leaf .comma) (rest : List Token)
      (ht : startsWith .placeholderEnd tokens = true) : tokens ≠ comma.token :: rest :=
    ne_cons_of_not_startsWith (startsWith_of_startsWith ht (by simp)) comma rest
  have hformat (word : Leaf .name) {rest more : List Token} (tree : SettingsTree)
      (hrest : startsWith .comma rest = true ∨ startsWith .placeholderEnd rest = true) :
      word.token :: rest ≠ tree.tokens ++ more := by
    intro he
    have hf := startsFormat_leaf word hrest
    rw [he, tree.startsFormat] at hf
    simp at hf
  cases a <;> cases b
  case none.none => exact ⟨rfl, h⟩
  case format.format comma word comma' word' =>
    simp only [tokens, List.cons_append, List.nil_append, List.cons.injEq] at h
    obtain ⟨hc, hw, rfl⟩ := h
    rw [Leaf.eq_of_token_eq hc, Leaf.eq_of_token_eq hw]
    exact ⟨rfl, rfl⟩
  case settings.settings comma tree comma' tree' =>
    obtain ⟨hc, hrest⟩ := List.cons.inj h
    obtain ⟨rfl, rfl⟩ := SettingsTree.eq_of_append_eq hr hs hrest
    rw [Leaf.eq_of_token_eq hc]
    exact ⟨rfl, rfl⟩
  case both.both comma word behind tree comma' word' behind' tree' =>
    simp only [tokens, List.cons_append, List.cons.injEq] at h
    obtain ⟨hc, hw, hb, hrest⟩ := h
    obtain ⟨rfl, rfl⟩ := SettingsTree.eq_of_append_eq hr hs hrest
    rw [Leaf.eq_of_token_eq hc, Leaf.eq_of_token_eq hw, Leaf.eq_of_token_eq hb]
    exact ⟨rfl, rfl⟩
  -- without details the placeholder ends where else a comma stands
  case none.format comma word => exact absurd h (hcomma comma _ hr)
  case none.settings comma tree => exact absurd h (hcomma comma _ hr)
  case none.both comma word behind tree => exact absurd h (hcomma comma _ hr)
  case format.none comma word => exact absurd h.symm (hcomma comma _ hs)
  case settings.none comma tree => exact absurd h.symm (hcomma comma _ hs)
  case both.none comma word behind tree => exact absurd h.symm (hcomma comma _ hs)
  -- settings do not begin with a format
  case format.settings comma word comma' tree' =>
    exact absurd (List.cons.inj h).2 (hformat word tree' (.inr hr))
  case settings.format comma tree comma' word' =>
    exact absurd (List.cons.inj h).2.symm (hformat word' tree (.inr hs))
  case both.settings comma word behind tree comma' tree' =>
    exact absurd (List.cons.inj h).2 (hformat word tree' (.inl (startsWith_leaf behind _)))
  case settings.both comma tree comma' word' behind' tree' =>
    exact absurd (List.cons.inj h).2.symm (hformat word' tree (.inl (startsWith_leaf behind' _)))
  -- behind a format either the placeholder ends or a comma stands
  case format.both comma word comma' word' behind' tree' =>
    exact absurd (List.cons.inj (List.cons.inj h).2).2 (hcomma behind' _ hr)
  case both.format comma word behind tree comma' word' =>
    exact absurd (List.cons.inj (List.cons.inj h).2).2.symm (hcomma behind _ hs)

theorem PlaceTree.eq_of_append_eq {a b : PlaceTree} {r s : List Token}
    (h : a.tokens ++ r = b.tokens ++ s) : a = b ∧ r = s := by
  obtain ⟨opening, name, details, closing, hk⟩ := a
  obtain ⟨opening', name', details', closing', hk'⟩ := b
  simp only [tokens, List.cons_append, List.append_assoc, List.nil_append, List.cons.injEq] at h
  obtain ⟨ho, rfl, hrest⟩ := h
  obtain ⟨rfl, hend⟩ := DetailsTree.eq_of_append_eq (startsWith_leaf closing r)
    (startsWith_leaf closing' s) hrest
  obtain ⟨hc, rfl⟩ := List.cons.inj hend
  obtain rfl := Leaf.eq_of_token_eq ho
  obtain rfl := Leaf.eq_of_token_eq hc
  exact ⟨rfl, rfl⟩

theorem ItemTree.eq_of_append_eq {a b : ItemTree} {r s : List Token}
    (h : a.tokens ++ r = b.tokens ++ s) : a = b ∧ r = s := by
  cases a with
  | text token before after kind =>
    cases b with
    | text token' before' after' kind' =>
      obtain ⟨rfl, rfl⟩ := List.cons.inj h
      obtain ⟨rfl, rfl⟩ := TokenKind.text.inj (kind.symm.trans kind')
      exact ⟨rfl, rfl⟩
    | place tree =>
      obtain ⟨rfl, -⟩ := List.cons.inj h
      simp [tree.opening.kind_eq] at kind
  | place tree =>
    cases b with
    | text token' before' after' kind' =>
      obtain ⟨he, -⟩ := List.cons.inj h
      simp [← he, tree.opening.kind_eq] at kind'
    | place tree' =>
      obtain ⟨rfl, rfl⟩ := PlaceTree.eq_of_append_eq h
      exact ⟨rfl, rfl⟩

/-- The end of the source is not the beginning of an item. -/
theorem ItemTree.ne_ending (item : ItemTree) (rest : List Token) (ending : Leaf .eof) :
    item.tokens ++ rest ≠ [ending.token] := by
  intro h
  cases item with
  | text token before after kind =>
    obtain ⟨rfl, -⟩ := List.cons.inj h
    simp [ending.kind_eq] at kind
  | place tree =>
    obtain ⟨he, -⟩ := List.cons.inj h
    have := tree.opening.kind_eq
    simp [he, ending.kind_eq] at this

/-- A template has one derivation at most. -/
theorem TemplateTree.eq_of_tokens_eq {a b : TemplateTree} (h : a.tokens = b.tokens) : a = b := by
  obtain ⟨items, ending⟩ := a
  obtain ⟨items', ending'⟩ := b
  simp only [tokens] at h
  obtain ⟨-, he⟩ := List.append_inj' h rfl
  obtain rfl := Leaf.eq_of_token_eq (List.cons.inj he).1
  -- the endings agree as the last tokens; the items are compared from the front
  have hitems : items = items' := by
    clear he
    induction items generalizing items' with
    | nil =>
      cases items' with
      | nil => rfl
      | cons item' items' =>
        rw [List.flatMap_cons, List.append_assoc] at h
        exact absurd h.symm (item'.ne_ending _ ending)
    | cons item items ih =>
      rw [List.flatMap_cons, List.append_assoc] at h
      cases items' with
      | nil => exact absurd h (item.ne_ending _ ending)
      | cons item' items' =>
        rw [List.flatMap_cons, List.append_assoc] at h
        obtain ⟨rfl, hrest⟩ := ItemTree.eq_of_append_eq h
        rw [ih items' hrest]
  rw [hitems]

end Phrasebook
