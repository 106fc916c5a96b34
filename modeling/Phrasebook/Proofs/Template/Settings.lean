import Phrasebook.Proofs.Message.Settings
import Phrasebook.Proofs.Template.Values

/-! # Entries and settings are read by the grammar

    Which rule an entry follows is decided by its first token, or by the token behind quoted text.
    The settings are the entries added one by one, `EntryTree.addTo`; that no entry is refused is
    the same as that keys are distinct. -/

namespace Phrasebook

/-! ### Entries -/

namespace EntryTree

/-- The settings with the entry, unless its key is taken. -/
def addTo (settings : Settings SettingValue) :
    EntryTree → Except DuplicateElement (Settings SettingValue)
  | otherwise _ value => settings.setOtherwise value.value
  | bare text => settings.setOtherwise (.string text.value)
  | keyed key _ value => settings.insert key.key value.value

end EntryTree

theorem startsQuotedValue_of_quote {token : Token} (h : ∃ quote, token.kind = .quoteStart quote)
    (rest : List Token) :
    startsQuotedValue (token :: rest) = !startsWith .colon (rest.drop 2) := by
  obtain ⟨kind, start, stop, text⟩ := token
  obtain ⟨quote, hk⟩ := h
  obtain rfl : kind = .quoteStart quote := hk
  rfl

theorem startsQuotedValue_of_not_quote {token : Token}
    (h : ∀ quote, token.kind ≠ .quoteStart quote) (rest : List Token) :
    startsQuotedValue (token :: rest) = false := by
  unfold startsQuotedValue
  split
  · rename_i quote start stop text rest' heq
    obtain ⟨rfl, -⟩ := List.cons.inj heq
    exact absurd rfl (h quote)
  · rfl

theorem QuotedTree.startsWith_colon (tree : QuotedTree) (rest : List Token) :
    startsWith .colon (tree.tokens ++ rest) = false := by
  obtain ⟨quote, ho⟩ := tree.opening_kind
  simp [QuotedTree.tokens, startsWith_cons, ho]

/-- Quoted text is a value of its own unless a colon follows. -/
theorem QuotedTree.startsQuotedValue (tree : QuotedTree) (rest : List Token) :
    startsQuotedValue (tree.tokens ++ rest) = !startsWith .colon rest := by
  rw [QuotedTree.tokens, List.cons_append, startsQuotedValue_of_quote tree.opening_kind]
  rfl

/-- A brace. None of them begins an entry. -/
def TokenKind.IsBrace (kind : TokenKind) : Prop :=
  kind = .mapStart ∨ kind = .mapEnd ∨ kind = .placeholderEnd

theorem TokenKind.not_isBrace_comma : ¬ TokenKind.comma.IsBrace := by simp [IsBrace]

theorem TokenKind.not_isBrace_colon : ¬ TokenKind.colon.IsBrace := by simp [IsBrace]

theorem not_startsWith_of_brace {brace kind : TokenKind} (hb : brace.IsBrace)
    {tokens : List Token} (h : startsWith brace tokens = true) (hk : ¬ kind.IsBrace) :
    startsWith kind tokens = false := by
  refine startsWith_of_startsWith h ?_
  rintro rfl
  exact hk hb

/-- A token that begins a key and nothing else: no entry without a key begins with it, and no format
    does. -/
structure TokenKind.BeginsKeyOnly (kind : TokenKind) : Prop where
  /-- It is no colon. -/
  ne_colon : kind ≠ .colon
  /-- It is no brace. -/
  not_brace : ¬ kind.IsBrace
  /-- It is no name. -/
  ne_name : kind ≠ .name
  /-- It is no quote. -/
  ne_quote : ∀ quote, kind ≠ .quoteStart quote

/-- How a key begins. Quoted text and names may begin something else as well, and are told from it
    by what follows. -/
theorem KeyTree.first_cases (tree : KeyTree) :
    (∃ text, tree = .quoted none text) ∨ (∃ leaf, tree = .name leaf) ∨
      ∃ token rest, tree.tokens = token :: rest ∧ token.kind.BeginsKeyOnly := by
  have hmark (mark : ComparatorTree) (tokens : List Token) :
      ∃ token rest, mark.token :: tokens = token :: rest ∧ token.kind.BeginsKeyOnly := by
    refine ⟨mark.token, tokens, rfl, ?_⟩
    constructor <;> simp [mark.kind_eq, TokenKind.IsBrace]
  cases tree with
  | number mark token n kind =>
    cases mark with
    | none =>
      refine .inr (.inr ⟨token, [], rfl, ?_⟩)
      constructor <;> simp [kind, TokenKind.IsBrace]
    | some mark => exact .inr (.inr (hmark mark _))
  | quoted mark text =>
    cases mark with
    | none => exact .inl ⟨text, rfl⟩
    | some mark => exact .inr (.inr (hmark mark _))
  | null mark fine leaf | empty mark fine leaf =>
    cases mark with
    | none =>
      refine .inr (.inr ⟨leaf.token, [], rfl, ?_⟩)
      constructor <;> simp [leaf.kind_eq, TokenKind.IsBrace]
    | some mark => exact .inr (.inr (hmark mark _))
  | bool token b kind =>
    refine .inr (.inr ⟨token, [], rfl, ?_⟩)
    constructor <;> simp [kind, TokenKind.IsBrace]
  | name leaf => exact .inr (.inl ⟨leaf, rfl⟩)

/-- A key begins with neither a colon nor a brace. -/
theorem KeyTree.exists_first (tree : KeyTree) :
    ∃ token rest, tree.tokens = token :: rest ∧ token.kind ≠ .colon ∧ ¬ token.kind.IsBrace := by
  rcases tree.first_cases with ⟨text, rfl⟩ | ⟨leaf, rfl⟩ | ⟨token, rest, ht, hkind⟩
  · obtain ⟨quote, ho⟩ := text.opening_kind
    exact ⟨text.opening, [text.content, text.closing], rfl, by simp [ho, TokenKind.IsBrace]⟩
  · exact ⟨leaf.token, [], rfl, by simp [leaf.kind_eq, TokenKind.IsBrace]⟩
  · exact ⟨token, rest, ht, hkind.ne_colon, hkind.not_brace⟩

/-- A key is no quoted text that is a value of its own, as a colon follows it. -/
theorem KeyTree.startsQuotedValue (tree : KeyTree) (colon : Leaf .colon) (rest : List Token) :
    startsQuotedValue (tree.tokens ++ colon.token :: rest) = false := by
  rcases tree.first_cases with ⟨text, rfl⟩ | ⟨leaf, rfl⟩ | ⟨token, more, ht, hkind⟩
  · show Phrasebook.startsQuotedValue (text.tokens ++ colon.token :: rest) = false
    rw [text.startsQuotedValue, startsWith_leaf]
    rfl
  · exact startsQuotedValue_of_not_quote (by simp [leaf.kind_eq]) _
  · rw [ht]
    exact startsQuotedValue_of_not_quote hkind.ne_quote _

/-- A value that begins with a quote is quoted text. -/
theorem ValueTree.exists_quoted {tree : ValueTree} {rest : List Token}
    (h : Phrasebook.startsQuotedValue (tree.tokens ++ rest) = true) :
    ∃ text, tree = .quoted text := by
  have hnot {token : Token} (hq : ∀ quote, token.kind ≠ .quoteStart quote) (more : List Token)
      (ht : Phrasebook.startsQuotedValue (token :: more) = true) : False := by
    rw [startsQuotedValue_of_not_quote hq] at ht
    simp at ht
  cases tree with
  | quoted text => exact ⟨text, rfl⟩
  | number token n kind => exact absurd h (hnot (by simp [kind]) rest)
  | bool token b kind => exact absurd h (hnot (by simp [kind]) rest)
  | word token kind =>
    refine absurd h (hnot (fun quote hk => ?_) rest)
    rcases kind with kind | kind | kind <;> simp [kind] at hk

theorem readOtherwise_eq {settings settings' : Settings SettingValue} (start : List Token)
    (tree : ValueTree) (h : settings.setOtherwise tree.value = .ok settings') (rest : List Token) :
    readOtherwise settings start (tree.tokens ++ rest) = .ok (settings', rest) := by
  simp only [readOtherwise, readValue_tokens, h]

theorem exists_of_readOtherwise {settings : Settings SettingValue} {start tokens : List Token}
    {r : Settings SettingValue × List Token} (h : readOtherwise settings start tokens = .ok r) :
    ∃ tree : ValueTree, tokens = tree.tokens ++ r.2 ∧
      settings.setOtherwise tree.value = .ok r.1 := by
  unfold readOtherwise at h
  split at h
  · simp at h
  · rename_i hv
    obtain ⟨tree, rfl, rfl⟩ := exists_of_readValue hv
    split at h
    · simp at h
    · rename_i hs
      obtain rfl := Except.ok.inj h
      exact ⟨tree, rfl, hs⟩

theorem readEntry_tokens {settings settings' : Settings SettingValue} {tree : EntryTree}
    (h : tree.addTo settings = .ok settings') {rest : List Token}
    (hrest : startsWith .colon rest = false) :
    readEntry settings (tree.tokens ++ rest) = .ok (settings', rest) := by
  cases tree with
  | otherwise colon value =>
    rw [EntryTree.tokens, List.cons_append, readEntry, if_pos (startsWith_leaf colon _)]
    exact readOtherwise_eq _ value h rest
  | bare text =>
    rw [EntryTree.tokens, readEntry, text.startsWith_colon, text.startsQuotedValue, hrest]
    exact readOtherwise_eq _ (.quoted text) h rest
  | keyed key colon value =>
    have hcolon :
        startsWith .colon (key.tokens ++ colon.token :: (value.tokens ++ rest)) = false := by
      -- otherwise the key would be taken for an entry without one
      obtain ⟨token, more, ht, hne, -⟩ := key.exists_first
      rw [ht, List.cons_append, startsWith_cons, decide_eq_false hne]
    have hinsert : settings.insert key.key value.value = .ok settings' := h
    rw [EntryTree.tokens, List.append_assoc, List.cons_append, readEntry, hcolon,
      key.startsQuotedValue colon]
    simp only [readKey_tokens, expectToken_leaf, readValue_tokens, hinsert]
    rfl

theorem exists_of_readEntry {settings : Settings SettingValue} {tokens : List Token}
    {r : Settings SettingValue × List Token} (h : readEntry settings tokens = .ok r) :
    ∃ tree : EntryTree, tokens = tree.tokens ++ r.2 ∧ tree.addTo settings = .ok r.1 := by
  -- the reader looks for the two entries without a key first; whatever else begins is a key
  unfold readEntry at h
  split at h
  · rename_i hcolon
    obtain ⟨colon, ht⟩ := exists_leaf_of_startsWith hcolon
    obtain ⟨tree, htree, hs⟩ := exists_of_readOtherwise h
    exact ⟨.otherwise colon tree, by rw [ht, htree]; rfl, hs⟩
  split at h
  · rename_i hquoted
    obtain ⟨tree, rfl, hs⟩ := exists_of_readOtherwise h
    obtain ⟨text, rfl⟩ := ValueTree.exists_quoted hquoted
    exact ⟨.bare text, rfl, hs⟩
  split at h
  · simp at h
  rename_i hk
  obtain ⟨key, rfl, rfl⟩ := exists_of_readKey hk
  split at h
  · simp at h
  rename_i he
  obtain ⟨colon, rfl⟩ := exists_leaf_of_expectToken he
  split at h
  · simp at h
  rename_i hv
  obtain ⟨value, rfl, rfl⟩ := exists_of_readValue hv
  split at h
  · simp at h
  · rename_i hs
    obtain rfl := Except.ok.inj h
    exact ⟨.keyed key colon value, by simp [EntryTree.tokens], hs⟩

/-! ### Settings -/

/-- No entry begins with a brace. -/
theorem EntryTree.startsWith_brace (tree : EntryTree) (rest : List Token) {brace : TokenKind}
    (h : brace.IsBrace) : startsWith brace (tree.tokens ++ rest) = false := by
  obtain ⟨token, more, ht, hnot⟩ :
      ∃ token more, tree.tokens = token :: more ∧ ¬ token.kind.IsBrace := by
    cases tree with
    | otherwise colon value =>
      exact ⟨colon.token, value.tokens, rfl, by simp [colon.kind_eq, TokenKind.IsBrace]⟩
    | bare text =>
      obtain ⟨quote, ho⟩ := text.opening_kind
      exact ⟨text.opening, [text.content, text.closing], rfl, by simp [ho, TokenKind.IsBrace]⟩
    | keyed key colon value =>
      obtain ⟨token, more, ht, -, hnot⟩ := key.exists_first
      exact ⟨token, more ++ colon.token :: value.tokens, by rw [EntryTree.tokens, ht]; rfl, hnot⟩
  have hne : token.kind ≠ brace := fun he => hnot (he ▸ h)
  rw [ht, List.cons_append, startsWith_cons, decide_eq_false hne]

/-- What the reader does behind an entry. -/
theorem readEntries_eq {stop : TokenKind} {settings settings' : Settings SettingValue}
    {tokens rest : List Token} (h : readEntry settings tokens = .ok (settings', rest)) :
    readEntries stop settings tokens =
      if startsWith .comma rest then
        if startsWith stop rest.tail then .ok (settings', rest.tail)
        else readEntries stop settings' rest.tail
      else .ok (settings', rest) := by
  rw [readEntries]
  split
  · rename_i e he
    rw [h] at he
    simp at he
  · rename_i s r he
    obtain ⟨rfl, rfl⟩ := Prod.mk.inj (Except.ok.inj (h.symm.trans he))
    rfl

theorem EntriesTree.startsWith_brace (tree : EntriesTree) (rest : List Token) {brace : TokenKind}
    (h : brace.IsBrace) : startsWith brace (tree.tokens ++ rest) = false := by
  cases tree with
  | last entry => exact entry.startsWith_brace rest h
  | closed entry comma =>
    rw [tokens, List.append_assoc]
    exact entry.startsWith_brace _ h
  | more entry comma tree =>
    rw [tokens, List.append_assoc]
    exact entry.startsWith_brace _ h

theorem readEntries_tokens {stop : TokenKind} (hstop : stop.IsBrace)
    {tree : EntriesTree} {settings settings' : Settings SettingValue}
    (h : tree.entries.foldlM EntryTree.addTo settings = .ok settings') {rest : List Token}
    (hrest : startsWith stop rest = true) :
    readEntries stop settings (tree.tokens ++ rest) = .ok (settings', rest) := by
  -- The brace is what ends the entries: it is neither a comma, which would go on with them,
  -- nor the colon that would make a key of the last text.
  have hcomma := not_startsWith_of_brace hstop hrest TokenKind.not_isBrace_comma
  have hcolon := not_startsWith_of_brace hstop hrest TokenKind.not_isBrace_colon
  induction tree generalizing settings with
  | last entry =>
    have hadd : entry.addTo settings = .ok settings' := by
      simpa [EntriesTree.entries] using h
    rw [EntriesTree.tokens, readEntries_eq (readEntry_tokens hadd hcolon), hcomma]
    rfl
  | closed entry comma =>
    have hadd : entry.addTo settings = .ok settings' := by
      simpa [EntriesTree.entries] using h
    have hcolon' : startsWith .colon (comma.token :: rest) = false :=
      startsWith_of_startsWith (startsWith_leaf comma rest) (by simp)
    rw [EntriesTree.tokens, List.append_assoc, List.singleton_append,
      readEntries_eq (readEntry_tokens hadd hcolon'), if_pos (startsWith_leaf comma rest),
      List.tail_cons, if_pos hrest]
  | more entry comma tree ih =>
    rw [EntriesTree.entries, List.foldlM_cons] at h
    obtain ⟨next, hadd, h⟩ := exists_of_bind_eq_ok h
    have hcolon' : startsWith .colon (comma.token :: (tree.tokens ++ rest)) = false :=
      startsWith_of_startsWith (startsWith_leaf comma _) (by simp)
    rw [EntriesTree.tokens, List.append_assoc, List.cons_append,
      readEntries_eq (readEntry_tokens hadd hcolon'), if_pos (startsWith_leaf comma _),
      List.tail_cons, tree.startsWith_brace rest hstop]
    exact ih h

theorem exists_of_readEntries {stop : TokenKind} {settings : Settings SettingValue}
    {tokens : List Token} {r : Settings SettingValue × List Token}
    (h : readEntries stop settings tokens = .ok r) :
    ∃ tree : EntriesTree, tokens = tree.tokens ++ r.2 ∧
      tree.entries.foldlM EntryTree.addTo settings = .ok r.1 := by
  induction settings, tokens using readEntries.induct stop generalizing r with
  -- an entry that is refused refuses all of them
  | case1 settings tokens e he =>
    rw [readEntries] at h
    split at h
    · simp at h
    · simp_all
  -- a comma, and behind it the brace
  | case2 settings tokens settings' rest he hc hs =>
    obtain ⟨entry, ht, hadd⟩ := exists_of_readEntry he
    obtain ⟨comma, hcomma⟩ := exists_leaf_of_startsWith hc
    rw [readEntries_eq he, if_pos hc, if_pos hs] at h
    obtain rfl := Except.ok.inj h
    refine ⟨.closed entry comma, ?_, by simpa [EntriesTree.entries] using hadd⟩
    rw [ht, hcomma, EntriesTree.tokens, List.append_assoc]
    rfl
  -- a comma, and behind it more entries
  | case3 settings tokens settings' rest he hc hs ih =>
    obtain ⟨entry, ht, hadd⟩ := exists_of_readEntry he
    obtain ⟨comma, hcomma⟩ := exists_leaf_of_startsWith hc
    rw [readEntries_eq he, if_pos hc, if_neg hs] at h
    obtain ⟨tree, htree, hall⟩ := ih h
    refine ⟨.more entry comma tree, ?_, ?_⟩
    · rw [ht, hcomma, htree, EntriesTree.tokens, List.append_assoc]
      rfl
    · rw [EntriesTree.entries, List.foldlM_cons, hadd]
      exact hall
  -- no comma
  | case4 settings tokens settings' rest he hc =>
    obtain ⟨entry, ht, hadd⟩ := exists_of_readEntry he
    rw [readEntries_eq he, if_neg hc] at h
    obtain rfl := Except.ok.inj h
    exact ⟨.last entry, ht, by simpa [EntriesTree.entries] using hadd⟩

/-! ### Distinct keys -/

/-- Adding entries succeeds if no key repeats and there is one value for everything else at most. -/
theorem foldlM_addTo_iff {entries : List EntryTree} {start settings : Settings SettingValue}
    (hd : start.Distinct) :
    entries.foldlM EntryTree.addTo start = .ok settings ↔
      (start.keys ++ (entries.filterMap EntryTree.keyed?).map Prod.fst).Nodup ∧
      (start.otherwise.toList ++ entries.filterMap EntryTree.otherwise?).length ≤ 1 ∧
      settings = ⟨start.entries ++ entries.filterMap EntryTree.keyed?,
        start.otherwise.or (entries.filterMap EntryTree.otherwise?).head?⟩ := by
  induction entries generalizing start with
  | nil =>
    have hlast : start.otherwise.toList.length ≤ 1 := by cases start.otherwise <;> simp
    have hnodup : start.keys.Nodup := hd
    simp [hlast, hnodup, pure, Except.pure, eq_comm]
  | cons entry entries ih =>
    rw [List.foldlM_cons]
    -- an entry takes part in one of the two conditions, depending on whether it has a key
    rcases hk : entry.keyed? with _ | ⟨key, value⟩
    · obtain ⟨value, hv, hadd⟩ : ∃ value, entry.otherwise? = some value ∧
          entry.addTo start = start.setOtherwise value := by
        cases entry with
        | otherwise colon value => exact ⟨_, rfl, rfl⟩
        | bare text => exact ⟨_, rfl, rfl⟩
        | keyed key colon value => simp [EntryTree.keyed?] at hk
      rw [List.filterMap_cons_none hk, List.filterMap_cons_some hv, hadd]
      cases ho : start.otherwise with
      | some first =>
        rw [Settings.setOtherwise, ho]
        simp [bind, Except.bind]
      | none =>
        rw [Settings.setOtherwise, ho]
        simp only [Option.isSome_none, Bool.false_eq_true, if_false, bind, Except.bind]
        rw [ih (show Settings.Distinct { start with otherwise := some value } from hd)]
        simp [Settings.keys]
    · obtain ⟨hv, hadd⟩ : entry.otherwise? = none ∧
          entry.addTo start = start.insert key value := by
        cases entry with
        | otherwise colon value => simp [EntryTree.keyed?] at hk
        | bare text => simp [EntryTree.keyed?] at hk
        | keyed key colon value =>
          obtain ⟨rfl, rfl⟩ := Prod.mk.inj (Option.some.inj hk)
          exact ⟨rfl, rfl⟩
      rw [List.filterMap_cons_some hk, List.filterMap_cons_none hv, hadd]
      by_cases hmem : key ∈ start.keys
      · have hno :
            ¬ (start.keys ++ (key :: (entries.filterMap EntryTree.keyed?).map Prod.fst)).Nodup := by
          intro h
          exact (List.nodup_append.1 h).2.2 key hmem key List.mem_cons_self rfl
        rw [Settings.insert_of_mem hmem]
        simp [bind, Except.bind, hno]
      · have hins := @Settings.insert_of_not_mem _ start key value hmem
        rw [hins]
        simp only [bind, Except.bind]
        rw [ih (hd.insert hins)]
        simp [Settings.keys]

/-- Settings are what their entries add up to, if keys are distinct. -/
theorem SettingsTree.foldlM_addTo_iff {tree : SettingsTree} {settings : Settings SettingValue} :
    tree.entries.foldlM EntryTree.addTo {} = .ok settings ↔
      tree.Distinct ∧ settings = tree.settings := by
  rw [Phrasebook.foldlM_addTo_iff Settings.distinct_empty]
  simp only [Settings.keys, List.map_nil, List.nil_append, Option.toList_none, Option.none_or]
  constructor
  · rintro ⟨hk, ho, hs⟩
    exact ⟨⟨hk, ho⟩, hs⟩
  · rintro ⟨⟨hk, ho⟩, hs⟩
    exact ⟨hk, ho, hs⟩

/-! ### Reading settings -/

/-- Settings end where a placeholder does, whether they have braces or not. -/
theorem readSettings_tokens {tree : SettingsTree} (hd : tree.Distinct) {rest : List Token}
    (hrest : startsWith .placeholderEnd rest = true) :
    readSettings (tree.tokens ++ rest) = .ok (tree.settings, rest) := by
  -- distinct keys are what makes every entry find its place
  have hadd := SettingsTree.foldlM_addTo_iff.2 ⟨hd, rfl⟩
  cases tree with
  | braced opening entries closing =>
    have hentries := readEntries_tokens (.inr (.inl rfl)) hadd (startsWith_leaf closing rest)
    rw [readSettings, SettingsTree.tokens, List.cons_append, if_pos (startsWith_leaf opening _),
      List.tail_cons, List.append_assoc, List.singleton_append]
    simp only [hentries, expectToken_leaf, Except.map]
  | plain entries =>
    rw [readSettings, SettingsTree.tokens, entries.startsWith_brace rest (.inl rfl)]
    exact readEntries_tokens (.inr (.inr rfl)) hadd hrest

theorem exists_of_readSettings {tokens : List Token} {r : Settings SettingValue × List Token}
    (h : readSettings tokens = .ok r) :
    ∃ tree : SettingsTree, tokens = tree.tokens ++ r.2 ∧ tree.Distinct ∧ r.1 = tree.settings := by
  unfold readSettings at h
  split at h
  · rename_i hopen
    obtain ⟨opening, ht⟩ := exists_leaf_of_startsWith hopen
    split at h
    · simp at h
    · rename_i settings rest he
      obtain ⟨entries, hentries, hadd⟩ := exists_of_readEntries he
      obtain ⟨rest', hx, rfl⟩ := exists_of_map_eq_ok h
      obtain ⟨closing, rfl⟩ := exists_leaf_of_expectToken hx
      refine ⟨.braced opening entries closing, ?_, SettingsTree.foldlM_addTo_iff.1 hadd⟩
      rw [ht, hentries, SettingsTree.tokens, List.cons_append, List.append_assoc]
      rfl
  · obtain ⟨entries, hentries, hadd⟩ := exists_of_readEntries h
    exact ⟨.plain entries, hentries, SettingsTree.foldlM_addTo_iff.1 hadd⟩

end Phrasebook
