import Phrasebook.Proofs.Template.Printing

/-! # Printed messages are parsed

    A printable message is printed as a template. What is parsed from it differs from the message
    where printing does not keep a text or a source: every literal and every string comes back as
    its `reread`, and the rest comes back as it was. -/

namespace Phrasebook

/-! ### Entries -/

/-- The settings that are read where the settings were printed. -/
def Settings.reread (settings : Settings SettingValue) : Settings SettingValue :=
  ⟨settings.entries.map fun entry => (entry.1, entry.2.reread),
    settings.otherwise.map SettingValue.reread⟩

section Entries

variable (size opened maps : Nat)

/-- A character of punctuation is scanned whatever stands behind it. -/
theorem exists_leaf_of_punctuation {c : Char} {kind : TokenKind} {mode : ScanMode}
    (h : punctuationAt? c opened maps = some (kind, mode)) (hw : isWhitespace c = false)
    (rest : List Char) :
    ∃ leaf : Leaf kind,
      Scans size (.placeholder opened maps) (c :: rest) [leaf.token] mode rest := by
  refine ⟨⟨.between size kind (String.ofList [c]) (c :: rest) rest, rfl⟩, Scans.step ?_⟩
  rw [scanStep_placeholder hw, scanPlaceholderStep]
  simp only [h]
  rfl

theorem exists_comma (rest : List Char) :
    ∃ leaf : Leaf .comma, Scans size (.placeholder opened maps) (',' :: rest) [leaf.token]
      (.placeholder opened maps) rest :=
  exists_leaf_of_punctuation size opened maps rfl rfl rest

theorem exists_colon (rest : List Char) :
    ∃ leaf : Leaf .colon, Scans size (.placeholder opened maps) (':' :: rest) [leaf.token]
      (.placeholder opened maps) rest :=
  exists_leaf_of_punctuation size opened maps rfl rfl rest

end Entries

/-- The tree is an entry with the key and the value. -/
def EntryTree.IsKeyed (key : SettingKey) (value : SettingValue) (tree : EntryTree) : Prop :=
  tree.keyed? = some (key, value) ∧ tree.otherwise? = none

/-- The tree is an entry with the value for everything else. -/
def EntryTree.IsOtherwise (value : SettingValue) (tree : EntryTree) : Prop :=
  tree.keyed? = none ∧ tree.otherwise? = some value

theorem prints_keyed {key : SettingKey} {value : SettingValue} (hk : key.Printable)
    (hv : value.Printable) :
    Prints EntryTree.tokens (EntryTree.IsKeyed key value.reread)
      (key.source ++ ":" ++ Message.valueSource value).toList := by
  intro size opened rest hrest
  obtain ⟨valueTree, hvalue, hscanValue⟩ := prints_value hv size opened rest hrest
  obtain ⟨colon, hscanColon⟩ :=
    exists_colon size opened 0 ((Message.valueSource value).toList ++ rest)
  obtain ⟨keyTree, hkey, hscanKey⟩ := prints_key hk size opened _ (atMark_colon _)
  refine ⟨.keyed keyTree colon valueTree, ⟨?_, rfl⟩, ?_⟩
  · rw [EntryTree.keyed?, hkey, hvalue]
  · simp only [String.toList_append, List.append_assoc]
    exact hscanKey.trans (hscanColon.trans hscanValue)

theorem prints_otherwise {value : SettingValue} (hv : value.Printable) :
    Prints EntryTree.tokens (EntryTree.IsOtherwise value.reread)
      (":" ++ Message.valueSource value).toList := by
  intro size opened rest hrest
  obtain ⟨valueTree, hvalue, hscanValue⟩ := prints_value hv size opened rest hrest
  obtain ⟨colon, hscanColon⟩ :=
    exists_colon size opened 0 ((Message.valueSource value).toList ++ rest)
  refine ⟨.otherwise colon valueTree, ⟨rfl, ?_⟩, ?_⟩
  · rw [EntryTree.otherwise?, hvalue]
  · simp only [String.toList_append, List.append_assoc]
    exact hscanColon.trans hscanValue

/-! ### Settings -/

/-- The tree has the entries with keys, and the values for everything else. -/
def EntriesTree.Lists (keyed : List (SettingKey × SettingValue)) (otherwise : List SettingValue)
    (tree : EntriesTree) : Prop :=
  tree.entries.filterMap EntryTree.keyed? = keyed ∧
    tree.entries.filterMap EntryTree.otherwise? = otherwise

theorem prints_last {source : String} {wanted : EntryTree → Prop}
    {keyed : List (SettingKey × SettingValue)} {otherwise : List SettingValue}
    (h : Prints EntryTree.tokens wanted source.toList)
    (hwanted : ∀ tree, wanted tree → (EntriesTree.last tree).Lists keyed otherwise) :
    Prints EntriesTree.tokens (EntriesTree.Lists keyed otherwise) source.toList := by
  intro size opened rest hrest
  obtain ⟨tree, htree, hscan⟩ := h size opened rest hrest
  exact ⟨.last tree, hwanted tree htree, hscan⟩

/-- Entries are printed in order, and the value for everything else behind them. -/
theorem prints_entries {entries : List (SettingKey × SettingValue)}
    {otherwise : Option SettingValue} (hk : ∀ entry ∈ entries, entry.1.Printable)
    (hv : ∀ entry ∈ entries, entry.2.Printable) (ho : ∀ value ∈ otherwise, value.Printable)
    (hne : entries ≠ [] ∨ otherwise ≠ none) :
    Prints EntriesTree.tokens
      (EntriesTree.Lists (entries.map fun entry => (entry.1, entry.2.reread))
        (otherwise.map SettingValue.reread).toList)
      (joinWith "," (Message.entriesSource entries ++ Message.otherwiseSource otherwise)).toList := by
  induction entries with
  | nil =>
    cases otherwise with
    | none => simp at hne
    | some value =>
      refine prints_last (prints_otherwise (ho value rfl)) fun tree htree => ?_
      simp [EntriesTree.Lists, EntriesTree.entries, htree.1, htree.2]
  | cons entry entries ih =>
    obtain ⟨key, value⟩ := entry
    obtain ⟨hkey, hkeys⟩ := List.forall_mem_cons.1 hk
    obtain ⟨hvalue, hvalues⟩ := List.forall_mem_cons.1 hv
    have hentry := prints_keyed hkey hvalue
    rw [Message.entriesSource, List.cons_append]
    by_cases hlast : entries = [] ∧ otherwise = none
    · obtain ⟨rfl, rfl⟩ := hlast
      refine prints_last hentry fun tree htree => ?_
      simp [EntriesTree.Lists, EntriesTree.entries, htree.1, htree.2]
    · -- more entries follow behind a comma
      have hmore : entries ≠ [] ∨ otherwise ≠ none := by
        by_contra hnone
        simp only [not_or, ne_eq, not_not] at hnone
        exact hlast hnone
      obtain ⟨source, sources, hsources⟩ : ∃ source sources,
          Message.entriesSource entries ++ Message.otherwiseSource otherwise =
            source :: sources := by
        refine List.exists_cons_of_ne_nil fun hnil => ?_
        obtain ⟨hentries, hotherwise⟩ := List.append_eq_nil_iff.1 hnil
        rcases hmore with hmore | hmore
        · cases entries <;> simp [Message.entriesSource] at hentries hmore
        · cases otherwise <;> simp [Message.otherwiseSource] at hotherwise hmore
      intro size opened rest hrest
      obtain ⟨tree, htree, hscan⟩ := ih hkeys hvalues hmore size opened rest hrest
      rw [hsources] at hscan ⊢
      obtain ⟨comma, hcomma⟩ := exists_comma size opened 0
        ((joinWith "," (source :: sources)).toList ++ rest)
      obtain ⟨first, hfirst, hscanFirst⟩ := hentry size opened _ (atMark_comma _)
      refine ⟨.more first comma tree, ?_, ?_⟩
      · simp [EntriesTree.Lists, EntriesTree.entries, hfirst.1, hfirst.2, htree.1, htree.2]
      · rw [joinWith_cons_cons, String.toList_append, String.toList_append, List.append_assoc,
          List.append_assoc]
        exact hscanFirst.trans (hcomma.trans hscan)

/-- Settings that are not empty are printed as entries without braces. -/
theorem prints_settings {settings : Settings SettingValue} (h : settings.Printable)
    (hne : settings.isEmpty = false) :
    Prints EntriesTree.tokens
      (fun tree => (SettingsTree.plain tree).settings = settings.reread ∧
        (SettingsTree.plain tree).Distinct)
      (Message.settingsSource settings).toList := by
  obtain ⟨entries, otherwise⟩ := settings
  obtain ⟨hvalues, hotherwise⟩ := Settings.forall_mem_values.1 h.values
  have hkeys : ∀ entry ∈ entries, entry.1.Printable :=
    fun entry he => h.keys entry.1 (List.mem_map_of_mem he)
  have hsome : entries ≠ [] ∨ otherwise ≠ none := by
    by_contra hnone
    simp only [not_or, ne_eq, not_not] at hnone
    simp [Settings.isEmpty, hnone.1, hnone.2] at hne
  intro size opened rest hrest
  obtain ⟨tree, ⟨hkeyed, hother⟩, hscan⟩ :=
    prints_entries hkeys hvalues hotherwise hsome size opened rest hrest
  refine ⟨tree, ⟨?_, ?_, ?_⟩, hscan⟩
  · rw [SettingsTree.settings, SettingsTree.entries, hkeyed, hother, Settings.reread]
    cases otherwise <;> rfl
  · rw [SettingsTree.entries, hkeyed, List.map_map]
    exact h.distinct
  · rw [SettingsTree.entries, hother]
    cases otherwise <;> simp

/-! ### Placeholders -/

/-- What is printed behind the name of a placeholder. -/
def Placeholder.detailsSource (format : Option String) (settings : Settings SettingValue) :
    String :=
  (format.map ("," ++ ·)).getD "" ++
    (if settings.isEmpty then "" else "," ++ Message.settingsSource settings)

theorem atMark_detailsSource (format : Option String) (settings : Settings SettingValue)
    {rest : List Char} (hrest : AtMark rest) :
    AtMark ((Placeholder.detailsSource format settings).toList ++ rest) := by
  rw [Placeholder.detailsSource]
  cases format with
  | some format =>
    simp only [Option.map_some, Option.getD_some, String.toList_append, List.append_assoc]
    exact atMark_comma _
  | none =>
    split
    · exact hrest
    · simp only [Option.map_none, Option.getD_none, String.toList_append, List.append_assoc]
      exact atMark_comma _

theorem Settings.reread_of_isEmpty {settings : Settings SettingValue}
    (h : settings.isEmpty = true) : settings.reread = {} := by
  obtain ⟨entries, otherwise⟩ := settings
  obtain ⟨hentries, hotherwise⟩ : entries = [] ∧ otherwise = none := by
    simpa [Settings.isEmpty] using h
  rw [hentries, hotherwise]
  rfl

/-- The tree is that of details with distinct keys. -/
def DetailsTree.Reads (format : Option String) (settings : Settings SettingValue)
    (tree : DetailsTree) : Prop :=
  tree.details = (format, settings) ∧ ∀ s ∈ tree.settings?, s.Distinct

theorem prints_details {format : Option String} {settings : Settings SettingValue}
    (hf : ∀ word ∈ format, IsNameText word) (hs : settings.Printable) :
    Prints DetailsTree.tokens (DetailsTree.Reads format settings.reread)
      (Placeholder.detailsSource format settings).toList := by
  intro size opened rest hrest
  rw [Placeholder.detailsSource]
  cases hempty : settings.isEmpty with
  | true =>
    rw [if_pos rfl, Settings.reread_of_isEmpty hempty]
    cases format with
    | none => exact ⟨.none, ⟨rfl, by simp [DetailsTree.settings?]⟩, Scans.refl⟩
    | some word =>
      obtain ⟨comma, hcomma⟩ := exists_comma size opened 0 (word.toList ++ rest)
      obtain ⟨leaf, htext, hleaf⟩ :=
        exists_leaf_of_word size opened 0 (hf word rfl).isWord (hf word rfl).kind hrest
      refine ⟨.format comma leaf, ⟨?_, by simp [DetailsTree.settings?]⟩, ?_⟩
      · rw [← htext]
        rfl
      · simpa [DetailsTree.tokens] using hcomma.trans hleaf
  | false =>
    rw [if_neg (by simp)]
    obtain ⟨tree, ⟨hsettings, hdistinct⟩, hscan⟩ := prints_settings hs hempty size opened rest hrest
    obtain ⟨comma, hcomma⟩ :=
      exists_comma size opened 0 ((Message.settingsSource settings).toList ++ rest)
    cases format with
    | none =>
      refine ⟨.settings comma (.plain tree), ⟨?_, by simpa [DetailsTree.settings?]⟩, ?_⟩
      · rw [← hsettings]
        rfl
      · simpa [DetailsTree.tokens, SettingsTree.tokens] using hcomma.trans hscan
    | some word =>
      obtain ⟨leaf, htext, hleaf⟩ := exists_leaf_of_word size opened 0 (hf word rfl).isWord
        (hf word rfl).kind (atMark_comma ((Message.settingsSource settings).toList ++ rest))
      obtain ⟨comma', hcomma'⟩ := exists_comma size opened 0
        (word.toList ++ ',' :: ((Message.settingsSource settings).toList ++ rest))
      refine ⟨.both comma' leaf comma (.plain tree), ⟨?_, by simpa [DetailsTree.settings?]⟩, ?_⟩
      · rw [← hsettings, ← htext]
        rfl
      · simpa [DetailsTree.tokens, SettingsTree.tokens] using
          hcomma'.trans (hleaf.trans (hcomma.trans hscan))

/-- The placeholder that is read where the placeholder was printed, up to spaces. -/
def Placeholder.reread (place : Placeholder) : Placeholder :=
  { place with settings := place.settings.reread }

theorem toList_placeSource (place : Placeholder) :
    (Message.placeSource place).toList =
      '%' :: '{' :: (place.name.toList ++
        ((Placeholder.detailsSource place.format place.settings).toList ++ ['}'])) := by
  obtain ⟨name, format, settings, before, after⟩ := place
  simp [Message.placeSource, Placeholder.detailsSource]

/-- A placeholder is scanned from its opening to its closing brace. -/
theorem scans_place (size : Nat) {place : Placeholder} (h : place.Printable) (rest : List Char) :
    ∃ tree : PlaceTree,
      tree.place = { place.reread with spaceBefore := false, spaceAfter := false } ∧
        tree.Distinct ∧
        Scans size .text ((Message.placeSource place).toList ++ rest) tree.tokens .text rest := by
  let behind := (Placeholder.detailsSource place.format place.settings).toList ++ '}' :: rest
  let cs := '%' :: '{' :: (place.name.toList ++ behind)
  -- the scanner remembers where the placeholder opened
  let opened := size - cs.length
  let opening : Leaf .placeholderStart :=
    ⟨.between size .placeholderStart "%\x7b" cs (place.name.toList ++ behind), rfl⟩
  have hopening : Scans size .text cs [opening.token] (.placeholder opened 0)
      (place.name.toList ++ behind) := Scans.step rfl
  have hname := scans_word size opened 0 h.name
    (atMark_detailsSource place.format place.settings (atMark_brace rest))
  obtain ⟨details, ⟨hdetails, hdistinct⟩, hscan⟩ :=
    prints_details h.format h.settings size opened _ (atMark_brace rest)
  have hbrace : punctuationAt? '}' opened 0 = some (.placeholderEnd, .text) := rfl
  obtain ⟨closing, hclosing⟩ := exists_leaf_of_punctuation size opened 0 hbrace rfl rest
  refine ⟨⟨opening, .between size (.ofWord place.name) place.name (place.name.toList ++ behind)
    behind, details, closing, TokenKind.ofWord_cases place.name⟩, ?_, hdistinct, ?_⟩
  · rw [PlaceTree.place, hdetails]
    rfl
  · rw [toList_placeSource]
    simpa [PlaceTree.tokens] using hopening.trans (hname.trans (hscan.trans hclosing))

/-! ### Parts -/

namespace Part

/-- The part that is read where the part was printed. -/
def reread : Part → Part
  | literal text => literal text.reread
  | placeholder place => placeholder place.reread

/-- The part as it is printed, with the spaces around it. -/
def chars (part : Part) : List Char :=
  spaces part.spaceBefore ++ (Message.partSource part).toList ++ spaces part.spaceAfter

/-- Of the spaces between two parts one is a flag at most. -/
theorem Follows.not_both {first second : Part} (h : first.Follows second) :
    first.spaceAfter = false ∨ second.spaceBefore = false := by
  cases first <;> cases second
  · exact absurd h id
  · exact .inr h
  · exact .inl h
  · exact .inr h

end Part

/-- So the spaces between parts are printed once, as if every part was printed for itself. -/
theorem toList_partsSource {parts : List Part} (h : parts.IsChain Part.Follows) {spaced : Bool}
    (hfirst : ∀ part ∈ parts.head?, spaced = false ∨ part.spaceBefore = false) :
    (Message.partsSource spaced parts).toList = spaces spaced ++ parts.flatMap Part.chars := by
  induction parts generalizing spaced with
  | nil => simp [Message.partsSource, toList_spaceIf]
  | cons part parts ih =>
    obtain ⟨hfollows, hrest⟩ := List.isChain_cons.1 h
    have hspaces : spaces (spaced || part.spaceBefore) =
        spaces spaced ++ spaces part.spaceBefore := by
      rcases hfirst part rfl with hs | hs
      · rw [hs]
        rfl
      · rw [hs, Bool.or_false]
        exact (List.append_nil _).symm
    rw [Message.partsSource, String.toList_append, String.toList_append, toList_spaceIf, hspaces,
      ih hrest fun next hnext => (hfollows next hnext).not_both, List.flatMap_cons, Part.chars]
    simp

theorem Message.OfParts.toList_source {message : Message} (h : message.OfParts)
    (hparts : message.parts.IsChain Part.Follows) :
    message.source.toList = message.parts.flatMap Part.chars := by
  cases message with
  | empty => rfl
  | single part =>
    simp [Message.source, toList_spaceIf, Message.parts, Part.chars]
  | multiple parts =>
    have hchain : parts.IsChain Part.Follows := hparts
    rw [Message.source]
    exact toList_partsSource hchain (by simp)
  | localized variants => exact absurd h id
  | coded code message => exact absurd h id

/-- Behind a text, and behind a space at a placeholder, stands another placeholder if anything. -/
theorem endsText_of_follows {last : Part} {parts : List Part}
    (h : (last :: parts).IsChain Part.Follows)
    (hlast : last.IsLiteral ∨ last.spaceAfter = true) : EndsText (parts.flatMap Part.chars) := by
  cases parts with
  | nil => exact .inl rfl
  | cons part parts =>
    have hfollows := (List.isChain_cons_cons.1 h).1
    cases part with
    | literal text =>
      -- a text follows neither a text nor a space
      cases last with
      | literal text' => exact absurd hfollows id
      | placeholder place =>
        rcases hlast with hlast | hlast
        · exact absurd hlast id
        · cases hlast.symm.trans hfollows
    | placeholder place =>
      have hbefore : place.spaceBefore = false := by cases last <;> exact hfollows
      rw [List.flatMap_cons, Part.chars, Part.spaceBefore, hbefore, Message.partSource,
        toList_placeSource]
      exact .inr ⟨_, rfl⟩

/-- Characters that were written with their escapes are one item. -/
theorem exists_text (size : Nat) {cs behind : List Char} (hcs : cs ≠ []) (hb : EndsText behind) :
    ∃ item : ItemTree, item.part = .literal (Literal.scanned cs) ∧ item.Distinct ∧
      Scans size .text (escapeLiteralChars cs ++ behind) item.tokens .text behind := by
  have hspelled := spelled_escapeLiteralChars hb cs
  have hstep := scanTextStep_of_spelled size hb hspelled hcs
  have hne : (escapeLiteralChars cs ++ behind).isEmpty = false := by
    rw [List.isEmpty_eq_false_iff]
    exact List.append_ne_nil_of_left_ne_nil (hspelled.ne_nil hcs) behind
  refine ⟨.text (.between size
    (.text (Literal.scanned cs).spaceBefore (Literal.scanned cs).spaceAfter)
    (Literal.scanned cs).text (escapeLiteralChars cs ++ behind) behind) _ _ rfl, rfl, trivial,
    Scans.step ?_⟩
  rw [scanStep, hne, hstep]
  rfl

/-- A space between places where text ends is an empty text. -/
theorem exists_gap (size : Nat) (spaced : Bool) {behind : List Char}
    (hb : spaced = true → EndsText behind) :
    ∃ items : List ItemTree, items.map ItemTree.part = Part.gap spaced ∧
      (∀ item ∈ items, item.Distinct) ∧
      Scans size .text (spaces spaced ++ behind) (items.flatMap ItemTree.tokens) .text behind := by
  cases spaced with
  | false => exact ⟨[], rfl, by simp, Scans.refl⟩
  | true =>
    have hspace : [' '] ≠ [] := List.cons_ne_nil ' ' []
    obtain ⟨item, hpart, hdistinct, hscan⟩ := exists_text size hspace (hb rfl)
    refine ⟨[item], ?_, List.forall_mem_singleton.2 hdistinct, ?_⟩
    · rw [List.map_singleton, hpart]
      rfl
    · rw [List.flatMap_singleton]
      exact hscan

theorem exists_items_of_part (size : Nat) {part : Part} (hne : part.isEmptyText = false)
    (hprintable : ∀ place, part = .placeholder place → place.Printable) {behind : List Char}
    (hb : part.IsLiteral ∨ part.spaceAfter = true → EndsText behind) :
    ∃ items : List ItemTree, items.map ItemTree.part = part.reread.spread ∧
      (∀ item ∈ items, item.Distinct) ∧
      Scans size .text (part.chars ++ behind) (items.flatMap ItemTree.tokens) .text behind := by
  cases part with
  | literal text =>
    have hchars : text.chars ≠ [] := by
      have htext : text.text.toList ≠ [] := by simpa [Part.isEmptyText] using hne
      simp [Literal.chars, htext]
    obtain ⟨item, hpart, hdistinct, hscan⟩ := exists_text size hchars (hb (.inl trivial))
    refine ⟨[item], ?_, List.forall_mem_singleton.2 hdistinct, ?_⟩
    · rw [List.map_singleton, hpart]
      rfl
    · rw [List.flatMap_singleton]
      rw [Literal.escapeLiteralChars_chars] at hscan
      rw [Part.chars, Message.partSource, escapeLiteral, String.toList_ofList]
      exact hscan
  | placeholder place =>
    -- a space, the placeholder, and another space, each of them in front of what follows
    obtain ⟨after, hafter, hdistinctAfter, hscanAfter⟩ :=
      exists_gap size place.spaceAfter fun hspace => hb (.inr hspace)
    obtain ⟨tree, htree, hdistinct, hscan⟩ :=
      scans_place size (hprintable place rfl) (spaces place.spaceAfter ++ behind)
    have hopening : EndsText
        ((Message.placeSource place).toList ++ (spaces place.spaceAfter ++ behind)) := by
      rw [toList_placeSource]
      exact .inr ⟨_, rfl⟩
    obtain ⟨before, hbefore, hdistinctBefore, hscanBefore⟩ :=
      exists_gap size place.spaceBefore fun _ => hopening
    refine ⟨before ++ .place tree :: after, ?_, ?_, ?_⟩
    · rw [List.map_append, List.map_cons, hbefore, hafter, ItemTree.part, htree]
      rfl
    · exact List.forall_mem_append.2 ⟨hdistinctBefore,
        List.forall_mem_cons.2 ⟨hdistinct, hdistinctAfter⟩⟩
    · rw [List.flatMap_append, List.flatMap_cons, Part.chars, Message.partSource, List.append_assoc,
        List.append_assoc]
      exact hscanBefore.trans (hscan.trans hscanAfter)

/-- Parts are scanned as the items that they are read from, and then the source ends. -/
theorem exists_items_of_parts (size : Nat) {parts : List Part} (h : Part.Arranged parts)
    (hplaces : ∀ place, .placeholder place ∈ parts → place.Printable) :
    ∃ items : List ItemTree,
      items.map ItemTree.part = (parts.map Part.reread).flatMap Part.spread ∧
      (∀ item ∈ items, item.Distinct) ∧
      Scans size .text (parts.flatMap Part.chars) (items.flatMap ItemTree.tokens) .text [] := by
  obtain ⟨hfollows, hnonempty⟩ := h
  induction parts with
  | nil => exact ⟨[], rfl, by simp, Scans.refl⟩
  | cons part parts ih =>
    obtain ⟨hne, hnes⟩ := List.forall_mem_cons.1 hnonempty
    obtain ⟨items, hitems, hdistinct, hscan⟩ :=
      ih (fun place hp => hplaces place (List.mem_cons_of_mem part hp)) hfollows.tail hnes
    obtain ⟨front, hfront, hdistinct', hscan'⟩ := exists_items_of_part size hne
      (fun place hp => hplaces place (hp ▸ List.mem_cons_self)) (endsText_of_follows hfollows)
    refine ⟨front ++ items, ?_, List.forall_mem_append.2 ⟨hdistinct', hdistinct⟩, ?_⟩
    · rw [List.map_append, hfront, hitems, List.map_cons, List.flatMap_cons]
    · rw [List.flatMap_cons, List.flatMap_append]
      exact hscan'.trans hscan

/-! ### Messages -/

/-- A printable message is parsed from what it is printed as. -/
theorem Template.parse_printed {message : Message} (h : message.Printable) :
    parse message.source =
      .ok (.ofParts ((message.parts.map Part.reread).flatMap Part.spread)) := by
  let size := message.source.length
  obtain ⟨items, hitems, hdistinct, hscan⟩ := exists_items_of_parts size h.arranged h.places
  refine parse_eq_ok_iff.2
    (parse?_eq_ok_iff.2 ⟨⟨items, ⟨⟨.eof, size, size, ""⟩, rfl⟩⟩, ?_, hdistinct, ?_⟩)
  · rw [tokenize, h.ofParts.toList_source h.arranged.follows, hscan, scanTokens_of_end rfl]
    rfl
  · rw [TemplateTree.message, hitems]

end Phrasebook
