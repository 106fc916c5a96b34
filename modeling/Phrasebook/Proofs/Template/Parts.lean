import Phrasebook.Proofs.Template.Settings

/-! # Placeholders and templates are read by the grammar

    A name behind the first comma of a placeholder is a format unless a colon makes it a key; the
    token behind it decides. A template is read up to the end of its source, which a scanned source
    has once and last. -/

namespace Phrasebook

/-! ### Details -/

theorem startsFormat_of_not_name {token : Token} (h : token.kind ≠ .name) (rest : List Token) :
    startsFormat (token :: rest) = false := by
  rw [startsFormat, startsWith_cons, decide_eq_false h, Bool.false_and]

/-- A key is no format, as a colon follows it. -/
theorem KeyTree.startsFormat (tree : KeyTree) (colon : Leaf .colon) (rest : List Token) :
    startsFormat (tree.tokens ++ colon.token :: rest) = false := by
  rcases tree.first_cases with ⟨text, rfl⟩ | ⟨leaf, rfl⟩ | ⟨token, more, ht, hkind⟩
  · obtain ⟨quote, ho⟩ := text.opening_kind
    exact startsFormat_of_not_name (by simp [ho]) _
  · show Phrasebook.startsFormat (leaf.token :: colon.token :: rest) = false
    have hcolon := startsWith_leaf colon rest
    rw [Phrasebook.startsFormat, List.tail_cons, startsWith_of_startsWith hcolon (by simp),
      startsWith_of_startsWith hcolon (by simp)]
    simp
  · rw [ht]
    exact startsFormat_of_not_name hkind.ne_name _

theorem EntryTree.startsFormat (tree : EntryTree) (rest : List Token) :
    startsFormat (tree.tokens ++ rest) = false := by
  cases tree with
  | otherwise colon value => exact startsFormat_of_not_name (by simp [colon.kind_eq]) _
  | bare text =>
    obtain ⟨quote, ho⟩ := text.opening_kind
    exact startsFormat_of_not_name (by simp [ho]) _
  | keyed key colon value =>
    rw [tokens, List.append_assoc]
    exact key.startsFormat colon _

/-- Settings do not begin with a format. -/
theorem SettingsTree.startsFormat (tree : SettingsTree) (rest : List Token) :
    startsFormat (tree.tokens ++ rest) = false := by
  cases tree with
  | braced opening entries closing =>
    exact startsFormat_of_not_name (by simp [opening.kind_eq]) _
  | plain entries =>
    cases entries with
    | last entry => exact entry.startsFormat rest
    | closed entry comma =>
      rw [tokens, EntriesTree.tokens, List.append_assoc]
      exact entry.startsFormat _
    | more entry comma entries =>
      rw [tokens, EntriesTree.tokens, List.append_assoc]
      exact entry.startsFormat _

/-- A name is a format if a comma or the end of the placeholder follows. -/
theorem startsFormat_leaf (leaf : Leaf .name) {rest : List Token}
    (h : startsWith .comma rest = true ∨ startsWith .placeholderEnd rest = true) :
    startsFormat (leaf.token :: rest) = true := by
  rw [startsFormat, startsWith_leaf, List.tail_cons]
  simpa using h

theorem readDetails_tokens {tree : DetailsTree} (hd : ∀ s ∈ tree.settings?, s.Distinct)
    {rest : List Token} (hrest : startsWith .placeholderEnd rest = true) :
    readDetails (tree.tokens ++ rest) = .ok (tree.details, rest) := by
  have hcomma : startsWith .comma rest = false := startsWith_of_startsWith hrest (by simp)
  cases tree with
  | none =>
    rw [DetailsTree.tokens, List.nil_append, readDetails, hcomma]
    rfl
  | format comma word =>
    have hformat := startsFormat_leaf word (.inr hrest)
    rw [readDetails, DetailsTree.tokens]
    simp only [List.cons_append, List.nil_append, startsWith_leaf, List.tail_cons, hformat, hcomma]
    rfl
  | settings comma tree =>
    have hread := readSettings_tokens (hd tree rfl) hrest
    rw [readDetails, DetailsTree.tokens]
    simp only [List.cons_append, startsWith_leaf, List.tail_cons, tree.startsFormat rest, hread]
    rfl
  | both comma word comma' tree =>
    have hread := readSettings_tokens (hd tree rfl) hrest
    -- the comma behind the word makes it a format, and settings follow
    have hformat := startsFormat_leaf word (.inl (startsWith_leaf comma' (tree.tokens ++ rest)))
    rw [readDetails, DetailsTree.tokens]
    simp only [List.cons_append, startsWith_leaf, List.tail_cons, hformat, hread]
    rfl

theorem exists_of_readDetails {tokens : List Token}
    {r : (Option String × Settings SettingValue) × List Token} (h : readDetails tokens = .ok r) :
    ∃ tree : DetailsTree, tokens = tree.tokens ++ r.2 ∧ (∀ s ∈ tree.settings?, s.Distinct) ∧
      r.1 = tree.details := by
  unfold readDetails at h
  simp only at h
  split at h
  · obtain rfl := Except.ok.inj h
    exact ⟨.none, rfl, by simp [DetailsTree.settings?], rfl⟩
  -- behind the comma stands a format if a name and then a comma or a brace follow
  rename_i hcomma
  have hstart : startsWith .comma tokens = true := by simpa using hcomma
  obtain ⟨comma, ht⟩ := exists_leaf_of_startsWith hstart
  split at h
  · rename_i hformat
    obtain ⟨word, hw⟩ := exists_leaf_of_startsWith (Bool.and_eq_true _ _ ▸ hformat).1
    split at h
    · rename_i hcomma'
      obtain ⟨comma', ht'⟩ := exists_leaf_of_startsWith hcomma'
      obtain ⟨s, hs, rfl⟩ := exists_of_map_eq_ok h
      obtain ⟨tree, htree, hdist, hset⟩ := exists_of_readSettings hs
      refine ⟨.both comma word comma' tree, ?_, by simpa [DetailsTree.settings?] using hdist, ?_⟩
      · rw [ht, hw, ht', htree]
        rfl
      · rw [hset, hw]
        rfl
    · obtain rfl := Except.ok.inj h
      refine ⟨.format comma word, ?_, by simp [DetailsTree.settings?], ?_⟩
      · rw [ht, hw]
        rfl
      · rw [hw]
        rfl
  · obtain ⟨s, hs, rfl⟩ := exists_of_map_eq_ok h
    obtain ⟨tree, htree, hdist, hset⟩ := exists_of_readSettings hs
    refine ⟨.settings comma tree, ?_, by simpa [DetailsTree.settings?] using hdist, ?_⟩
    · rw [ht, htree]
      rfl
    · rw [hset]
      rfl

/-! ### Placeholders -/

theorem readName_name (tree : PlaceTree) (rest : List Token) :
    readName (tree.name :: rest) = .ok (tree.name.text, rest) := by
  rcases tree.name_kind with (h | h | h) | ⟨b, h⟩ <;> simp [readName, h]

theorem kind_of_readName {tokens : List Token} {r : String × List Token}
    (h : readName tokens = .ok r) :
    ∃ token, tokens = token :: r.2 ∧ r.1 = token.text ∧
      (token.kind.IsWord ∨ ∃ b, token.kind = .bool b) := by
  cases tokens with
  | nil => simp [readName] at h
  | cons token rest =>
    cases hk : token.kind <;> simp only [readName, hk] at h
    case name =>
      obtain rfl := Except.ok.inj h
      exact ⟨token, rfl, rfl, .inl (.inl hk)⟩
    case bool b =>
      obtain rfl := Except.ok.inj h
      exact ⟨token, rfl, rfl, .inr ⟨b, hk⟩⟩
    case null =>
      obtain rfl := Except.ok.inj h
      exact ⟨token, rfl, rfl, .inl (.inr (.inl hk))⟩
    case empty =>
      obtain rfl := Except.ok.inj h
      exact ⟨token, rfl, rfl, .inl (.inr (.inr hk))⟩
    all_goals simp at h

theorem readPlaceholder_tokens {tree : PlaceTree} (hd : tree.Distinct) (rest : List Token) :
    readPlaceholder (tree.tokens ++ rest) = .ok (tree.place, rest) := by
  have hdetails := readDetails_tokens hd (startsWith_leaf tree.closing rest)
  rw [PlaceTree.tokens]
  simp only [List.cons_append, List.append_assoc, List.nil_append, readPlaceholder,
    expectToken_leaf, readName_name, hdetails, Except.map]
  rfl

theorem exists_of_readPlaceholder {tokens : List Token} {r : Placeholder × List Token}
    (h : readPlaceholder tokens = .ok r) :
    ∃ tree : PlaceTree, tokens = tree.tokens ++ r.2 ∧ tree.Distinct ∧ r.1 = tree.place := by
  unfold readPlaceholder at h
  split at h
  · simp at h
  rename_i hopen
  obtain ⟨opening, rfl⟩ := exists_leaf_of_expectToken hopen
  split at h
  · simp at h
  rename_i hname
  obtain ⟨name, rfl, rfl, hkind⟩ := kind_of_readName hname
  split at h
  · simp at h
  rename_i format settings rest hdetails
  obtain ⟨details, rfl, hdist, hboth⟩ := exists_of_readDetails hdetails
  obtain ⟨hformat, hsettings⟩ := Prod.mk.inj hboth
  obtain ⟨rest', hx, rfl⟩ := exists_of_map_eq_ok h
  obtain ⟨closing, rfl⟩ := exists_leaf_of_expectToken hx
  refine ⟨⟨opening, name, details, closing, hkind⟩, by simp [PlaceTree.tokens], hdist, ?_⟩
  rw [hformat, hsettings]
  rfl

/-! ### Templates -/

/-- What the reader does behind a placeholder. -/
theorem readParts_eq {token : Token} {tokens rest : List Token} {place : Placeholder}
    (hstart : token.kind = .placeholderStart)
    (h : readPlaceholder (token :: tokens) = .ok (place, rest)) :
    readParts (token :: tokens) = (readParts rest).map (.placeholder place :: ·) := by
  rw [readParts]
  simp only [hstart]
  split
  · rename_i e he
    rw [h] at he
    simp at he
  · rename_i place' rest' he
    obtain ⟨rfl, rfl⟩ := Prod.mk.inj (Except.ok.inj (h.symm.trans he))
    rfl

theorem readParts_items {items : List ItemTree} (hd : ∀ item ∈ items, item.Distinct)
    (ending : Leaf .eof) :
    readParts (items.flatMap ItemTree.tokens ++ [ending.token]) =
      .ok (items.map ItemTree.part) := by
  induction items with
  | nil =>
    rw [List.flatMap_nil, List.nil_append, readParts]
    simp only [ending.kind_eq, List.map_nil]
  | cons item items ih =>
    have hrest := ih fun i hi => hd i (List.mem_cons_of_mem _ hi)
    rw [List.flatMap_cons, List.append_assoc]
    cases item with
    | text token before after kind =>
      rw [ItemTree.tokens, List.singleton_append, readParts]
      simp only [kind, hrest, Except.map, List.map_cons, ItemTree.part]
    | place tree =>
      -- the placeholder ends where its brace does, so the other items are left
      have hread := readPlaceholder_tokens (hd (.place tree) List.mem_cons_self)
        (items.flatMap ItemTree.tokens ++ [ending.token])
      rw [ItemTree.tokens]
      exact (readParts_eq tree.opening.kind_eq hread).trans (by rw [hrest]; rfl)

/-- The parts that are read are derived by items; behind these stands the end of the source, or
    nothing at all. -/
theorem exists_of_readParts {tokens : List Token} {parts : List Part}
    (h : readParts tokens = .ok parts) :
    ∃ (items : List ItemTree) (rest : List Token), tokens = items.flatMap ItemTree.tokens ++ rest ∧
      (∀ item ∈ items, item.Distinct) ∧ parts = items.map ItemTree.part ∧
      (rest = [] ∨ startsWith .eof rest = true) := by
  -- the reader stops without an error at the end of the source only, or where no token is left
  induction tokens using readParts.induct generalizing parts with
  | case1 =>
    obtain rfl : [] = parts := by simpa [readParts] using h
    exact ⟨[], [], rfl, by simp, rfl, .inl rfl⟩
  | case2 token rest hk =>
    obtain rfl : [] = parts := by simpa [readParts, hk] using h
    exact ⟨[], token :: rest, rfl, by simp, rfl, .inr (startsWith_leaf ⟨token, hk⟩ rest)⟩
  | case3 token rest before after hk ih =>
    rw [readParts] at h
    simp only [hk] at h
    obtain ⟨more, hr, rfl⟩ := exists_of_map_eq_ok h
    obtain ⟨items, behind, rfl, hd, rfl, hend⟩ := ih hr
    refine ⟨.text token before after hk :: items, behind, rfl, ?_, rfl, hend⟩
    exact List.forall_mem_cons.2 ⟨trivial, hd⟩
  | case4 token rest hk e he =>
    rw [readParts] at h
    simp only [hk] at h
    split at h <;> simp_all
  | case5 token rest hk place rest' hp ih =>
    rw [readParts_eq hk hp] at h
    obtain ⟨more, hr, rfl⟩ := exists_of_map_eq_ok h
    obtain ⟨tree, ht, hdist, rfl⟩ := exists_of_readPlaceholder hp
    obtain ⟨items, behind, rfl, hd, rfl, hend⟩ := ih hr
    refine ⟨.place tree :: items, behind, ?_, ?_, rfl, hend⟩
    · rw [ht, List.flatMap_cons, List.append_assoc]
      rfl
    · exact List.forall_mem_cons.2 ⟨hdist, hd⟩
  | case6 token rest h1 h2 h3 =>
    rw [readParts] at h
    split at h <;> simp_all

/-- The last token of an item is not the end of the source. -/
theorem ItemTree.exists_last (item : ItemTree) :
    ∃ front last, item.tokens = front ++ [last] ∧ last.kind ≠ .eof := by
  cases item with
  | text token before after kind => exact ⟨[], token, rfl, by simp [kind]⟩
  | place tree =>
    exact ⟨tree.opening.token :: tree.name :: tree.details.tokens, tree.closing.token, rfl,
      by simp [tree.closing.kind_eq]⟩

/-- Items reach up to the end of a scanned source. -/
theorem exists_ending_of_items {items : List ItemTree} {rest tokens : List Token}
    (hs : IsScanned tokens) (ht : tokens = items.flatMap ItemTree.tokens ++ rest)
    (hrest : rest = [] ∨ startsWith .eof rest = true) :
    ∃ ending : Leaf .eof, rest = [ending.token] := by
  obtain ⟨front, ending, rfl, hend, hfront⟩ := hs.exists_ending
  rcases hrest with rfl | hrest
  · -- the last item would end with the end of the source
    rw [List.append_nil] at ht
    rcases List.eq_nil_or_concat items with rfl | ⟨items, item, rfl⟩
    · simp at ht
    · obtain ⟨before, last, hitem, hlast⟩ := item.exists_last
      rw [List.concat_eq_append, List.flatMap_append, List.flatMap_singleton, hitem,
        ← List.append_assoc] at ht
      obtain ⟨-, he⟩ := List.append_inj' ht rfl
      obtain rfl := (List.cons.inj he).1
      exact absurd hend hlast
  · obtain ⟨first, hfirst⟩ := exists_leaf_of_startsWith hrest
    rcases List.eq_nil_or_concat rest.tail with hnil | ⟨behind, last, hbehind⟩
    · exact ⟨first, by rw [hfirst, hnil]⟩
    · -- the end of the source would stand in front of the last token
      rw [hfirst, hbehind, List.concat_eq_append, ← List.cons_append, ← List.append_assoc] at ht
      obtain ⟨hf, -⟩ := List.append_inj' ht rfl
      exact absurd first.kind_eq (hfront first.token (by rw [hf]; simp))

/-- The reader accepts the tokens of a scanned source that a tree with distinct keys derives, and no
    others. -/
theorem readParts_eq_ok_iff {tokens : List Token} (hs : IsScanned tokens) {parts : List Part} :
    readParts tokens = .ok parts ↔
      ∃ tree : TemplateTree, tokens = tree.tokens ∧ tree.Distinct ∧
        parts = tree.items.map ItemTree.part := by
  constructor
  · intro h
    obtain ⟨items, rest, ht, hd, hparts, hrest⟩ := exists_of_readParts h
    obtain ⟨ending, rfl⟩ := exists_ending_of_items hs ht hrest
    exact ⟨⟨items, ending⟩, ht, hd, hparts⟩
  · rintro ⟨tree, rfl, hd, rfl⟩
    exact readParts_items hd tree.ending

end Phrasebook
