import Phrasebook.Proofs.Number.Decimal
import Phrasebook.Proofs.Template.Printable

/-! # Pieces of templates are scanned again

    What is printed is scanned piece by piece. `Scans` says that the scanner gets from one place to
    another and reads tokens on its way; runs of the scanner are put together from steps by
    `Scans.trans`. A word or a number ends only where another character stands, so a piece is
    followed by a mark, `AtMark`.

    `Prints` says of a piece that its tokens are those of a tree of the grammar, wherever the piece
    stands inside a placeholder. -/

namespace Phrasebook

/-! ### Classes of characters -/

/-- The characters that are tokens on their own, or begin one that is no word and no number. -/
def markChars : List Char := ['}', '{', ',', ':', '\'', '"', '=', '!', '<', '>']

theorem not_mem_markChars_of_isDigit {c : Char} (h : isDigit c = true) : c ∉ markChars := by
  have hnone : markChars.any isDigit = false := by decide
  intro hc
  exact List.any_eq_false.mp hnone c hc h

theorem not_mem_markChars_of_isNameStart {c : Char} (h : isNameStart c = true) :
    c ∉ markChars := by
  have hnone : markChars.any isNameStart = false := by decide
  intro hc
  exact List.any_eq_false.mp hnone c hc h

theorem toNat_of_isNameStart {c : Char} (h : isNameStart c = true) : 65 ≤ c.toNat := by
  rw [isNameStart, Unicode.isAlphabetic] at h
  split at h
  · have hval : c.toNat = c.val.toNat := rfl
    delta Char.isAlpha Char.isUpper Char.isLower at h
    simp only [Bool.or_eq_true, Bool.and_eq_true, decide_eq_true_eq, ge_iff_le,
      UInt32.le_iff_toNat_le] at h
    simp at h
    omega
  · omega

/-- No letter is a digit. -/
theorem isDigit_of_isNameStart {c : Char} (h : isNameStart c = true) : isDigit c = false := by
  have hle := toNat_of_isNameStart h
  by_contra hd
  have hdigit := toNat_of_isDigit (by simpa using hd)
  omega

/-- No letter is whitespace: the tables of both have no code in common. -/
theorem isWhitespace_of_isNameStart {c : Char} (h : isNameStart c = true) :
    isWhitespace c = false := by
  have hdisjoint : ∀ w ∈ wideWhitespace, ∀ r ∈ Unicode.alphabeticRanges,
      r.2 < w.1 ∨ w.2 < r.1 := by decide +kernel
  have hle := toNat_of_isNameStart h
  rw [isNameStart, Unicode.isAlphabetic] at h
  rw [isWhitespace]
  split at h <;> rename_i hascii
  · have hspace : c ≠ ' ' := by
      rintro rfl
      simp at hle
    rw [if_pos hascii]
    simp [hspace]
    omega
  · rw [if_neg hascii]
    by_contra hw
    obtain ⟨w, hmem, hlo, hhi⟩ := Unicode.inRanges_eq_true_iff.1 (Bool.not_eq_false _ ▸ hw)
    obtain ⟨r, hmem', hlo', hhi'⟩ := Unicode.inRanges_eq_true_iff.1 h
    have := hdisjoint w hmem r hmem'
    omega

/-! ### Running the scanner -/

/-- From the first place the scanner gets to the second one and reads the tokens on its way. -/
def Scans (size : Nat) (mode : ScanMode) (cs : List Char) (tokens : List Token)
    (mode' : ScanMode) (rest : List Char) : Prop :=
  scanTokens size mode cs = (scanTokens size mode' rest).map (tokens ++ ·)

namespace Scans

variable {size : Nat} {mode mode' mode'' : ScanMode} {cs cs' cs'' : List Char}
  {tokens tokens' : List Token}

theorem refl : Scans size mode cs [] mode cs := by
  rw [Scans]
  cases scanTokens size mode cs <;> rfl

theorem trans (h : Scans size mode cs tokens mode' cs')
    (h' : Scans size mode' cs' tokens' mode'' cs'') :
    Scans size mode cs (tokens ++ tokens') mode'' cs'' := by
  rw [Scans] at *
  rw [h, h']
  cases scanTokens size mode'' cs'' with
  | error e => rfl
  | ok rest => simp [Except.map]

/-- One step. -/
theorem step (h : scanStep size mode cs = .ok (some ⟨tokens, mode', cs'⟩)) :
    Scans size mode cs tokens mode' cs' :=
  scanTokens_eq_map h

end Scans

/-- A step inside a placeholder, at a character that is no whitespace. -/
theorem scanStep_placeholder {c : Char} (h : isWhitespace c = false) (size opened maps : Nat)
    (cs : List Char) :
    scanStep size (.placeholder opened maps) (c :: cs) =
      (scanPlaceholderStep size opened maps c cs).map some := by
  rw [scanStep, List.dropWhile_cons_of_neg (by simp [h])]

/-- Other characters than marks begin a number or a word. -/
theorem noMark_of_not_mem {c : Char} (h : c ∉ markChars) (opened maps : Nat)
    (next : Option Char) :
    punctuationAt? c opened maps = none ∧ quoteAt? c = none ∧ comparatorAt? c next = none := by
  refine ⟨?_, ?_, ?_⟩
  · unfold punctuationAt?
    split <;> simp [markChars] at h ⊢
  · unfold quoteAt?
    split <;> simp [markChars] at h ⊢
  · unfold comparatorAt?
    split <;> simp [markChars] at h ⊢

/-! ### Tokens -/

/-- The characters begin with one that may stand behind any piece of a placeholder. -/
def AtMark (cs : List Char) : Prop :=
  ∃ c more, cs = c :: more ∧ (c = ',' ∨ c = ':' ∨ c = '}')

theorem atMark_comma (cs : List Char) : AtMark (',' :: cs) := ⟨',', cs, rfl, .inl rfl⟩

theorem atMark_colon (cs : List Char) : AtMark (':' :: cs) := ⟨':', cs, rfl, .inr (.inl rfl)⟩

theorem atMark_brace (cs : List Char) : AtMark ('}' :: cs) := ⟨'}', cs, rfl, .inr (.inr rfl)⟩

/-- A class without marks ends at a mark. -/
theorem AtMark.span {p : Char → Bool} (hp : p ',' = false ∧ p ':' = false ∧ p '}' = false)
    {rest : List Char} (hrest : AtMark rest) {cs : List Char} (hcs : ∀ c ∈ cs, p c = true) :
    (cs ++ rest).takeWhile p = cs ∧ (cs ++ rest).dropWhile p = rest := by
  obtain ⟨c, more, rfl, hc⟩ := hrest
  have hstop : p c = false := by rcases hc with rfl | rfl | rfl <;> simp [hp]
  rw [List.takeWhile_append_of_pos hcs, List.dropWhile_append_of_pos hcs,
    List.takeWhile_cons_of_neg (by simp [hstop]), List.dropWhile_cons_of_neg (by simp [hstop]),
    List.append_nil]
  exact ⟨rfl, rfl⟩

section Tokens

variable (size opened maps : Nat)

/-- A word is scanned up to the mark behind it. -/
theorem scans_word {word : String} (hw : IsWordText word) {rest : List Char}
    (hrest : AtMark rest) :
    Scans size (.placeholder opened maps) (word.toList ++ rest)
      [.between size (.ofWord word) word (word.toList ++ rest) rest]
      (.placeholder opened maps) rest := by
  obtain ⟨c, cs, hword, hstart, hparts⟩ := hw
  obtain ⟨htake, hdrop⟩ := hrest.span (p := isNamePart) (by decide) hparts
  -- a letter is none of the things that the scanner looks for before it tries a word
  obtain ⟨hpunctuation, hquote, hcomparator⟩ :=
    noMark_of_not_mem (not_mem_markChars_of_isNameStart hstart) opened maps (cs ++ rest).head?
  have hminus : c ≠ '-' := by
    rintro rfl
    exact absurd hstart (by decide)
  have hofList : String.ofList (c :: cs) = word := by rw [← hword, String.ofList_toList]
  apply Scans.step
  rw [hword, List.cons_append, scanStep_placeholder (isWhitespace_of_isNameStart hstart),
    scanPlaceholderStep]
  simp only [hpunctuation, hquote, hcomparator, isDigit_of_isNameStart hstart, hminus, hstart,
    htake, hdrop, hofList, false_and, if_false, if_true, Bool.false_eq_true]
  rfl

theorem exists_leaf_of_word {word : String} (hw : IsWordText word) {kind : TokenKind}
    (hk : TokenKind.ofWord word = kind) {rest : List Char} (hrest : AtMark rest) :
    ∃ leaf : Leaf kind, leaf.token.text = word ∧
      Scans size (.placeholder opened maps) (word.toList ++ rest) [leaf.token]
        (.placeholder opened maps) rest :=
  ⟨⟨_, hk⟩, rfl, scans_word size opened maps hw hrest⟩

/-- Digits with their sign are the number that they were written for. -/
theorem int64OfInt?_signedValue (n : Int64) :
    int64OfInt? (signedValue (decide (n.toInt < 0)) (decimalDigits n.toInt.natAbs)) = some n := by
  have hlo := n.le_toInt
  have hhi := n.toInt_lt
  have hvalue : signedValue (decide (n.toInt < 0)) (decimalDigits n.toInt.natAbs) = n.toInt := by
    rw [signedValue, digitsValue_decimalDigits]
    split <;> rename_i hneg <;> simp at hneg <;> omega
  rw [hvalue, int64OfInt?, if_pos (by simp only [int64Min, int64Max]; omega), Int64.ofInt_toInt]

/-- A number is scanned up to the mark behind it. -/
theorem scans_number (n : Int64) {rest : List Char} (hrest : AtMark rest) :
    ∃ token, token.kind = .number n ∧
      Scans size (.placeholder opened maps) (intChars n.toInt ++ rest) [token]
        (.placeholder opened maps) rest := by
  have hdigits : ∀ c ∈ decimalDigits n.toInt.natAbs, isDigit c = true :=
    fun c => isDigit_of_mem_decimalDigits
  obtain ⟨htake, hdrop⟩ := hrest.span (p := isDigit) (by decide) hdigits
  obtain ⟨d, ds, hcons⟩ := List.exists_cons_of_ne_nil (decimalDigits_ne_nil n.toInt.natAbs)
  have hd : isDigit d = true := hdigits d (by rw [hcons]; exact List.mem_cons_self)
  have hvalue := int64OfInt?_signedValue n
  have hnumber (cs : List Char) : ∃ token, token.kind = .number n ∧
      scanNumber size (decide (n.toInt < 0)) cs (decimalDigits n.toInt.natAbs ++ rest) =
        .ok (token, rest) := by
    rw [scanNumber, htake, hdrop]
    simp only [hvalue]
    exact ⟨_, rfl, rfl⟩
  rw [intChars]
  by_cases hneg : n.toInt < 0
  · -- the sign is one only because a digit follows
    obtain ⟨hpunctuation, hquote, hcomparator⟩ := noMark_of_not_mem
      (c := '-') (by decide) opened maps (decimalDigits n.toInt.natAbs ++ rest).head?
    obtain ⟨token, hkind, htoken⟩ := hnumber ('-' :: (decimalDigits n.toInt.natAbs ++ rest))
    have hhead : ((decimalDigits n.toInt.natAbs ++ rest).head?.map isDigit).getD false = true := by
      simp [hcons, hd]
    rw [decide_eq_true hneg] at htoken
    refine ⟨token, hkind, Scans.step ?_⟩
    rw [if_pos hneg, List.cons_append, scanStep_placeholder (by decide), scanPlaceholderStep]
    simp only [hpunctuation, hquote, hcomparator, hhead, htoken, and_self, if_true]
    rfl
  · obtain ⟨hpunctuation, hquote, hcomparator⟩ :=
      noMark_of_not_mem (not_mem_markChars_of_isDigit hd) opened maps (ds ++ rest).head?
    obtain ⟨token, hkind, htoken⟩ := hnumber (decimalDigits n.toInt.natAbs ++ rest)
    rw [decide_eq_false hneg] at htoken
    refine ⟨token, hkind, Scans.step ?_⟩
    rw [if_neg hneg]
    rw [hcons, List.cons_append] at htoken ⊢
    rw [scanStep_placeholder (isWhitespace_of_isDigit hd), scanPlaceholderStep]
    simp only [hpunctuation, hquote, hcomparator, hd, htoken, if_true]
    rfl

/-- A quoted source is scanned up to its closing quote, whatever stands behind it. -/
theorem scans_quoted {source : String} (h : WellEscaped source.toList) (rest : List Char) :
    ∃ tree : QuotedTree, tree.value = .ofSource (requote source) ∧
      Scans size (.placeholder opened maps) ((quoteSource source).toList ++ rest) tree.tokens
        (.placeholder opened maps) rest := by
  have henclosable := h.enclosable_requoteChars
  have hsource := toList_quoteSource source
  generalize quoteFor source.toList = quote at henclosable hsource
  have hscan := scanQuoted_of_enclosable henclosable
    (quote.char :: (requoteChars source.toList ++ quote.char :: rest)) rest
  -- the scanner cuts the source out by what is left in front of it and behind it
  have htake : (requoteChars source.toList ++ quote.char :: rest).take
      ((requoteChars source.toList ++ quote.char :: rest).length - (quote.char :: rest).length) =
        requoteChars source.toList := by
    rw [List.length_append, Nat.add_sub_cancel, List.take_left' rfl]
  have hquote : isWhitespace quote.char = false ∧
      punctuationAt? quote.char opened maps = none ∧ quoteAt? quote.char = some quote := by
    cases quote <;> exact ⟨rfl, rfl, rfl⟩
  let closing := quote.char :: rest
  let content := requoteChars source.toList ++ closing
  let mark := String.ofList [quote.char]
  refine ⟨⟨.between size (.quoteStart quote) mark (quote.char :: content) content,
    .between size (.quotedText (requote source)) (unescape (requote source)) content closing,
    .between size (.quoteEnd quote) mark closing rest, requote source, ⟨quote, rfl⟩, rfl,
    ⟨quote, rfl⟩⟩, rfl, Scans.step ?_⟩
  have htext : String.ofList (unescapeChars (requoteChars source.toList)) =
      unescape (requote source) := by
    rw [unescape, requote, String.toList_ofList]
  rw [hsource, List.cons_append, List.append_assoc, List.singleton_append,
    scanStep_placeholder hquote.1, scanPlaceholderStep]
  simp only [hquote.2.1, hquote.2.2, scanQuotedTokens, hscan, Except.map, htake, htext]
  rfl

/-- A comparator of one character. -/
theorem scans_single {c : Char} {relation : Comparator} {cs : List Char}
    (hw : isWhitespace c = false) (hpunctuation : punctuationAt? c opened maps = none)
    (hquote : quoteAt? c = none) (h : comparatorAt? c cs.head? = some (relation, false)) :
    Scans size (.placeholder opened maps) (c :: cs)
      [.between size (.comparator relation) (String.ofList [c]) (c :: cs) cs]
      (.placeholder opened maps) cs := by
  apply Scans.step
  rw [scanStep_placeholder hw, scanPlaceholderStep]
  simp only [hpunctuation, hquote, h]
  rfl

/-- A comparator is scanned where neither character stands that could belong to it. -/
theorem scans_keyMark (relation : Comparator) {c : Char} (hc : c ≠ '>' ∧ c ≠ '=')
    (cs : List Char) :
    ∃ mark, ComparatorTree.relationOf mark = relation ∧
      Scans size (.placeholder opened maps) (relation.keyMark.toList ++ c :: cs)
        (ComparatorTree.tokensOf mark) (.placeholder opened maps) (c :: cs) := by
  have hlt : comparatorAt? '<' (some c) = some (.lt, false) := by
    unfold comparatorAt?
    split <;> simp_all
  have hgt : comparatorAt? '>' (some c) = some (.gt, false) := by
    unfold comparatorAt?
    split <;> simp_all
  cases relation with
  | eq => exact ⟨none, rfl, Scans.refl⟩
  | ne => exact ⟨some ⟨_, .ne, rfl⟩, rfl, Scans.step rfl⟩
  | le => exact ⟨some ⟨_, .le, rfl⟩, rfl, Scans.step rfl⟩
  | ge => exact ⟨some ⟨_, .ge, rfl⟩, rfl, Scans.step rfl⟩
  | lt => exact ⟨some ⟨_, .lt, rfl⟩, rfl, scans_single size opened maps rfl rfl rfl hlt⟩
  | gt => exact ⟨some ⟨_, .gt, rfl⟩, rfl, scans_single size opened maps rfl rfl rfl hgt⟩

end Tokens

/-! ### Values and keys -/

/-- In front of a mark, the characters are scanned as the tokens of a tree such as wanted. -/
def Prints {T : Type} (tokens : T → List Token) (wanted : T → Prop) (chars : List Char) : Prop :=
  ∀ (size opened : Nat) (rest : List Char), AtMark rest →
    ∃ tree, wanted tree ∧
      Scans size (.placeholder opened 0) (chars ++ rest) (tokens tree) (.placeholder opened 0) rest

/-- The value that is read where the value was printed: the source of a string may have been
    changed by quoting it. -/
def SettingValue.reread : SettingValue → SettingValue
  | .string quoted => .string (.ofSource (requote quoted.source))
  | value => value

theorem isWordText_boolText (b : Bool) : IsWordText (boolText b) := by
  cases b with
  | true => exact isWordText_cons rfl (by decide) (by decide)
  | false => exact isWordText_cons rfl (by decide) (by decide)

theorem ofWord_boolText (b : Bool) : TokenKind.ofWord (boolText b) = .bool b := by
  cases b <;> decide

theorem prints_value {value : SettingValue} (h : value.Printable) :
    Prints ValueTree.tokens (·.value = value.reread) (Message.valueSource value).toList := by
  intro size opened rest hrest
  cases value with
  | bool b =>
    have hscan := scans_word size opened 0 (isWordText_boolText b) hrest
    exact ⟨.bool _ b (ofWord_boolText b), rfl, hscan⟩
  | number n =>
    obtain ⟨token, hkind, hscan⟩ := scans_number size opened 0 n hrest
    refine ⟨.number token n hkind, rfl, ?_⟩
    rwa [Message.valueSource, intText, String.toList_ofList]
  | string quoted =>
    obtain ⟨tree, hvalue, hscan⟩ := scans_quoted size opened 0 h rest
    exact ⟨.quoted tree, congrArg SettingValue.string hvalue, hscan⟩
  | message inner => exact absurd h id

/-- A number begins with a digit or its sign. -/
theorem exists_first_intChars (n : Int) : ∃ c cs, intChars n = c :: cs ∧ c ≠ '>' ∧ c ≠ '=' := by
  rw [intChars]
  split
  · exact ⟨'-', _, rfl, by decide⟩
  · obtain ⟨c, cs, hcs⟩ := List.exists_cons_of_ne_nil (decimalDigits_ne_nil n.natAbs)
    have hc : isDigit c = true :=
      isDigit_of_mem_decimalDigits (n := n.natAbs) (by rw [hcs]; exact List.mem_cons_self)
    refine ⟨c, cs, hcs, ?_, ?_⟩ <;>
    · rintro rfl
      exact absurd hc (by decide)

/-- A key is scanned behind its comparator. -/
theorem scans_marked {size opened : Nat} {tokens : List Token} {chars rest : List Char}
    (relation : Comparator) (hc : ∃ c cs, chars = c :: cs ∧ c ≠ '>' ∧ c ≠ '=')
    (h : Scans size (.placeholder opened 0) (chars ++ rest) tokens (.placeholder opened 0) rest) :
    ∃ mark, ComparatorTree.relationOf mark = relation ∧
      Scans size (.placeholder opened 0) (relation.keyMark.toList ++ chars ++ rest)
        (ComparatorTree.tokensOf mark ++ tokens) (.placeholder opened 0) rest := by
  obtain ⟨c, cs, rfl, hc⟩ := hc
  obtain ⟨mark, hmark, hscan⟩ := scans_keyMark size opened 0 relation hc (cs ++ rest)
  refine ⟨mark, hmark, ?_⟩
  rw [List.append_assoc]
  exact hscan.trans h

theorem prints_key {key : SettingKey} (h : key.Printable) :
    Prints KeyTree.tokens (·.key = key) key.source.toList := by
  intro size opened rest hrest
  cases key with
  | bool b =>
    have hscan := scans_word size opened 0 (isWordText_boolText b) hrest
    exact ⟨.bool _ b (ofWord_boolText b), rfl, hscan⟩
  | name word =>
    obtain ⟨leaf, htext, hscan⟩ := exists_leaf_of_word size opened 0 h.isWord h.kind hrest
    exact ⟨.name leaf, congrArg SettingKey.name htext, hscan⟩
  | null relation =>
    have hword : IsWordText "null" := isWordText_cons rfl (by decide) (by decide)
    have hkind : TokenKind.ofWord "null" = .null := by decide
    obtain ⟨leaf, -, hscan⟩ := exists_leaf_of_word size opened 0 hword hkind hrest
    obtain ⟨mark, rfl, hmarked⟩ := scans_marked relation ⟨'n', _, rfl, by decide⟩ hscan
    refine ⟨.null mark h leaf, rfl, ?_⟩
    rwa [SettingKey.source, String.toList_append]
  | empty relation =>
    have hword : IsWordText "empty" := isWordText_cons rfl (by decide) (by decide)
    have hkind : TokenKind.ofWord "empty" = .empty := by decide
    obtain ⟨leaf, -, hscan⟩ := exists_leaf_of_word size opened 0 hword hkind hrest
    obtain ⟨mark, rfl, hmarked⟩ := scans_marked relation ⟨'e', _, rfl, by decide⟩ hscan
    refine ⟨.empty mark h leaf, rfl, ?_⟩
    rwa [SettingKey.source, String.toList_append]
  | number relation n =>
    obtain ⟨token, hkind, hscan⟩ := scans_number size opened 0 n hrest
    obtain ⟨mark, rfl, hmarked⟩ := scans_marked relation (exists_first_intChars n.toInt) hscan
    refine ⟨.number mark token n hkind, rfl, ?_⟩
    rwa [SettingKey.source, String.toList_append, intText, String.toList_ofList]
  | string relation text =>
    have hsource : WellEscaped (escape text).toList := by
      rw [escape, String.toList_ofList]
      exact (enclosable_escapeChars .single text.toList).wellEscaped
    obtain ⟨tree, hvalue, hscan⟩ := scans_quoted size opened 0 hsource rest
    obtain ⟨mark, rfl, hmarked⟩ := scans_marked relation
      ⟨_, _, toList_quoteSource (escape text), by cases quoteFor _ <;> decide⟩ hscan
    refine ⟨.quoted mark tree, ?_, ?_⟩
    · -- quoting leaves a text with escapes alone, so the text itself is read from it
      have hescape : requote (escape text) = escape text := by
        rw [requote, escape, String.toList_ofList, requoteChars_escapeChars]
      rw [hescape] at hvalue
      have htext : tree.content.text = unescape (escape text) := congrArg QuotedText.text hvalue
      show SettingKey.string _ tree.content.text = SettingKey.string _ text
      rw [htext, unescape_escape]
    · rwa [SettingKey.source, String.toList_append]

end Phrasebook
