import Phrasebook.Message.Nesting
import Phrasebook.Template.Compile

/-!
# Nested templates are shorter

A string among the settings of a template is part of the source of that template, whose first two
characters open the placeholder. So its source is shorter (`rank_le_of_parse?`: the message of a
template ranks no higher than the template is long), and reading templates within templates ends.
-/

namespace Phrasebook

/-! ## Tokens -/

/-- What the token may become in the settings is shorter than `size`. -/
def Token.Fits (size : Nat) (token : Token) : Prop :=
  match token.kind with
  | .quotedText source => source.length < size
  | .name | .null | .empty => token.text.length < size
  | .placeholderStart => 0 < size
  | _ => True

/-- What is left where the scanner stands; inside a placeholder its opening has been read. -/
def ScanMode.Leaves (size : Nat) : ScanMode → List Char → Prop
  | .text, cs => cs.length ≤ size
  | .placeholder _ _, cs => cs.length + 2 ≤ size

theorem fits_ofWord {size : Nat} {word : String} {start stop : List Char}
    (h : word.length < size) : (Token.between size (.ofWord word) word start stop).Fits size := by
  simp only [Token.Fits, Token.between, TokenKind.ofWord]
  by_cases h1 : eqIgnoringAsciiCase word "true" = true
  · simp [h1]
  by_cases h2 : eqIgnoringAsciiCase word "false" = true
  · simp [h1, h2]
  by_cases h3 : word = "null"
  · simp [h3] at h ⊢
    exact h
  by_cases h4 : word = "empty"
  · simp [h4] at h ⊢
    exact h
  simpa [h1, h2, h3, h4] using h

theorem fits_of_scanTextStep {size : Nat} {cs : List Char} {step : ScanStep}
    (hcs : cs ≠ []) (hl : cs.length ≤ size) (h : scanTextStep size cs = .ok step) :
    (∀ token ∈ step.tokens, token.Fits size) ∧ step.mode.Leaves size step.rest := by
  have hr := scanTextStep_rest_lt hcs h
  unfold scanTextStep at h
  split at h
  · simp at h
    simp [← h, Token.Fits, Token.between, ScanMode.Leaves] at *
    omega
  · cases hs : scanText false (cs.dropWhile isWhitespace) with
    | error e => simp [hs, Except.map] at h
    | ok run =>
      simp [hs, Except.map] at h
      simp [← h, Token.Fits, Token.between, ScanMode.Leaves] at *
      omega

theorem fits_of_scanNumber {size total : Nat} {negative : Bool} {cs digits rest : List Char}
    {token : Token} (h : scanNumber size negative cs digits = .ok (token, rest)) :
    ∀ other ∈ [token], other.Fits total := by
  obtain ⟨-, n, rfl⟩ := scanNumber_eq_ok h
  exact List.forall_mem_singleton.2 trivial

/-- The source of quoted text is part of what stands behind the quote. -/
theorem fits_of_scanQuotedTokens {size total : Nat} {quote : Quote}
    {opening content rest : List Char} {tokens : List Token} (hl : content.length < total)
    (h : scanQuotedTokens size quote opening content = .ok (tokens, rest)) :
    ∀ token ∈ tokens, token.Fits total := by
  unfold scanQuotedTokens at h
  cases hs : scanQuoted quote opening content with
  | error e =>
    rw [hs] at h
    cases h
  | ok r =>
    rw [hs] at h
    obtain ⟨rfl, -⟩ := Prod.mk.inj (Except.ok.inj h)
    simp only [List.forall_mem_cons, List.not_mem_nil, false_imp_iff, implies_true, and_true]
    refine ⟨trivial, ?_, trivial⟩
    simp only [Token.Fits, Token.between, String.length_ofList, List.length_take]
    omega

theorem PlaceholderStep.fits {size opened maps : Nat} {c : Char} {cs : List Char}
    {step : ScanStep} (hl : (c :: cs).length + 2 ≤ size)
    (h : PlaceholderStep size opened maps c cs step) :
    (∀ token ∈ step.tokens, token.Fits size) ∧ step.mode.Leaves size step.rest := by
  have hrest := h.rest_lt
  -- what is left is shorter, so it leaves room if the placeholder stays open
  have hroom : step.rest.length + 2 ≤ size := by omega
  simp only [List.length_cons] at hl
  cases h with
  | punctuation hk =>
    unfold punctuationAt? at hk
    split at hk <;> simp at hk <;> obtain ⟨rfl, rfl⟩ := hk <;>
      simp [Token.Fits, Token.between, ScanMode.Leaves] <;> omega
  | quoted hs => exact ⟨fits_of_scanQuotedTokens (by omega) hs, hroom⟩
  | comparator relation two => exact ⟨List.forall_mem_singleton.2 trivial, hroom⟩
  | number hd hs => exact ⟨fits_of_scanNumber hs, hroom⟩
  | negative hc hs => exact ⟨fits_of_scanNumber hs, hroom⟩
  | word hc =>
    refine ⟨List.forall_mem_singleton.2 (fits_ofWord ?_), hroom⟩
    have hword := (List.takeWhile_prefix isNamePart (l := cs)).length_le
    rw [String.length_ofList, List.length_cons]
    omega

theorem fits_of_scanStep {size : Nat} {mode : ScanMode} {cs : List Char} {step : ScanStep}
    (hl : mode.Leaves size cs) (h : scanStep size mode cs = .ok (some step)) :
    (∀ token ∈ step.tokens, token.Fits size) ∧ step.mode.Leaves size step.rest := by
  rcases scanStep_cases h with ⟨rfl, hcs, hs⟩ | ⟨opened, maps, c, ds, rfl, hd, hs⟩
  · exact fits_of_scanTextStep hcs hl hs
  · have hle := dropWhile_length_le isWhitespace cs
    rw [hd] at hle
    exact hs.fits (Nat.le_trans (Nat.add_le_add_right hle 2) hl)

theorem fits_of_scanTokens {size : Nat} {mode : ScanMode} {cs : List Char} {tokens : List Token}
    (hl : mode.Leaves size cs) (h : scanTokens size mode cs = .ok tokens) :
    ∀ token ∈ tokens, token.Fits size := by
  refine scanTokens_induction (motive := fun mode cs tokens => mode.Leaves size cs →
    ∀ token ∈ tokens, token.Fits size) ?_ ?_ h hl
  · intro cs hs hl
    exact List.forall_mem_singleton.2 trivial
  · intro mode cs step tokens hs ih hl
    obtain ⟨hstep, hleaves⟩ := fits_of_scanStep hl hs
    exact List.forall_mem_append.2 ⟨hstep, ih hleaves⟩

theorem fits_of_tokenize {source : String} {tokens : List Token} (h : tokenize source = .ok tokens) :
    ∀ token ∈ tokens, token.Fits source.length :=
  fits_of_scanTokens (by simp [ScanMode.Leaves, String.length_toList]) h

/-! ## Readers leave an ending of their tokens -/

theorem suffix_expectToken {kind : TokenKind} {cause : SyntaxCause} {tokens rest : List Token}
    (h : expectToken kind cause tokens = .ok rest) : rest <:+ tokens := by
  unfold expectToken at h
  split at h
  · split at h
    · simp at h
      subst h
      exact List.suffix_cons _ _
    · simp at h
  · simp at h

theorem suffix_readQuoted {tokens : List Token} {r : QuotedText × List Token}
    (h : readQuoted tokens = .ok r) : r.2 <:+ tokens := by
  unfold readQuoted at h
  split at h
  · split at h
    · split at h
      · simp at h
        subst h
        exact ⟨[_, _, _], rfl⟩
      · simp at h
    · simp at h
  · simp at h

theorem suffix_readValue {tokens : List Token} {r : SettingValue × List Token}
    (h : readValue tokens = .ok r) : r.2 <:+ tokens := by
  unfold readValue at h
  split at h
  · rename_i token rest
    cases hk : token.kind <;> simp only [hk] at h
    case quoteStart =>
      cases hq : readQuoted (token :: rest) with
      | error e => simp [hq, Except.map] at h
      | ok q =>
        simp [hq, Except.map] at h
        subst h
        exact suffix_readQuoted hq
    all_goals simp at h
    all_goals subst h
    all_goals exact List.suffix_cons _ _
  · simp at h

theorem suffix_readKeyBehind {mark : Option (Token × Comparator)} {tokens : List Token}
    {r : SettingKey × List Token} (h : readKeyBehind mark tokens = .ok r) : r.2 <:+ tokens := by
  cases tokens with
  | nil => simp [readKeyBehind] at h
  | cons token rest =>
    cases hk : token.kind <;> simp only [readKeyBehind, hk] at h
    case quoteStart =>
      cases hq : readQuoted (token :: rest) with
      | error e => simp [hq, Except.map] at h
      | ok q =>
        simp [hq, Except.map] at h
        subst h
        exact suffix_readQuoted hq
    case null | empty =>
      cases hr : keywordRelation mark token.text with
      | error e => simp [hr, Except.map] at h
      | ok k => simp [hr, Except.map] at h; subst h; exact List.suffix_cons _ _
    case bool | name => cases mark <;> simp at h; subst h; exact List.suffix_cons _ _
    all_goals simp at h
    all_goals subst h
    all_goals exact List.suffix_cons _ _

theorem suffix_readComparator (tokens : List Token) : (readComparator tokens).2 <:+ tokens := by
  unfold readComparator
  split
  · split
    · exact List.suffix_cons _ _
    · exact List.suffix_rfl
  · exact List.suffix_rfl

theorem suffix_readKey {tokens : List Token} {r : SettingKey × List Token}
    (h : readKey tokens = .ok r) : r.2 <:+ tokens :=
  (suffix_readKeyBehind h).trans (suffix_readComparator tokens)

theorem suffix_readOtherwise {settings : Settings SettingValue} {start tokens : List Token}
    {r : Settings SettingValue × List Token} (h : readOtherwise settings start tokens = .ok r) :
    r.2 <:+ tokens := by
  unfold readOtherwise at h
  split at h
  · simp at h
  · rename_i hv
    split at h
    · simp at h
    · simp at h
      subst h
      exact suffix_readValue hv

theorem suffix_readEntry {settings : Settings SettingValue} {tokens : List Token}
    {r : Settings SettingValue × List Token} (h : readEntry settings tokens = .ok r) :
    r.2 <:+ tokens := by
  unfold readEntry at h
  split at h
  · exact (suffix_readOtherwise h).trans (List.tail_suffix _)
  split at h
  · exact suffix_readOtherwise h
  split at h
  · simp at h
  rename_i hk
  split at h
  · simp at h
  rename_i he
  split at h
  · simp at h
  rename_i hv
  split at h
  · simp at h
  · simp at h
    subst h
    exact ((suffix_readValue hv).trans (suffix_expectToken he)).trans (suffix_readKey hk)

/-! ## Values are shorter than the template -/

/-- Every value of the settings ranks below `size`. -/
def Settings.Below (size : Nat) (settings : Settings SettingValue) : Prop :=
  ∀ value ∈ settings.values, value.rank < size

theorem below_empty (size : Nat) : Settings.Below size {} := by
  simp [Settings.Below, Settings.values]

theorem rank_of_readValue {size : Nat} (hs : 0 < size) {tokens : List Token}
    {r : SettingValue × List Token} (hf : ∀ token ∈ tokens, token.Fits size)
    (h : readValue tokens = .ok r) : r.1.rank < size := by
  unfold readValue at h
  split at h
  · rename_i token rest
    have hfit := hf token (by simp)
    cases hkind : token.kind <;> simp only [hkind] at h
    case quoteStart =>
      cases hq : readQuoted (token :: rest) with
      | error e => simp [hq, Except.map] at h
      | ok q =>
        simp [hq, Except.map] at h
        subst h
        unfold readQuoted at hq
        split at hq
        · rename_i start content rest' hl
          split at hq
          · rename_i source hquoted
            have hc := hf content (by rw [hl]; simp)
            split at hq
            · simp at hq
              subst hq
              simpa [Token.Fits, hquoted, SettingValue.rank] using hc
            · simp at hq
          · simp at hq
        · simp at hq
    all_goals simp at h
    all_goals subst h
    all_goals simp [SettingValue.rank, QuotedText.ofWord, Token.Fits, hkind] at *
    all_goals omega
  · simp at h

theorem below_of_readOtherwise {size : Nat} (hs : 0 < size) {settings : Settings SettingValue}
    {start tokens : List Token} {r : Settings SettingValue × List Token}
    (hf : ∀ token ∈ tokens, token.Fits size) (hb : Settings.Below size settings)
    (h : readOtherwise settings start tokens = .ok r) : Settings.Below size r.1 := by
  unfold readOtherwise at h
  split at h
  · simp at h
  · rename_i hv
    split at h
    · simp at h
    · rename_i ht
      simp at h
      subst h
      intro value hm
      rcases Settings.values_setOtherwise ht hm with hm | rfl
      · exact hb value hm
      · exact rank_of_readValue hs hf hv

theorem below_of_readEntry {size : Nat} (hs : 0 < size) {settings : Settings SettingValue}
    {tokens : List Token} {r : Settings SettingValue × List Token}
    (hf : ∀ token ∈ tokens, token.Fits size) (hb : Settings.Below size settings)
    (h : readEntry settings tokens = .ok r) : Settings.Below size r.1 := by
  unfold readEntry at h
  split at h
  · exact below_of_readOtherwise hs (fun t ht => hf t (List.mem_of_mem_tail ht)) hb h
  split at h
  · exact below_of_readOtherwise hs hf hb h
  split at h
  · simp at h
  rename_i hk
  split at h
  · simp at h
  rename_i he
  split at h
  · simp at h
  rename_i hv
  split at h
  · simp at h
  · rename_i ht
    simp at h
    subst h
    have hsub := (suffix_expectToken he).trans (suffix_readKey hk)
    intro value hm
    rcases Settings.values_insert ht hm with hm | rfl
    · exact hb value hm
    · exact rank_of_readValue hs (fun t ht => hf t (hsub.subset ht)) hv

theorem below_of_readEntries {size : Nat} (hs : 0 < size) {stop : TokenKind}
    {settings : Settings SettingValue} {tokens : List Token}
    {r : Settings SettingValue × List Token} (hf : ∀ token ∈ tokens, token.Fits size)
    (hb : Settings.Below size settings) (h : readEntries stop settings tokens = .ok r) :
    Settings.Below size r.1 ∧ r.2 <:+ tokens := by
  induction settings, tokens using readEntries.induct stop generalizing r with
  | case1 settings tokens e he =>
    rw [readEntries] at h
    split at h
    · simp at h
    · simp_all
  | case2 settings tokens settings' rest he hc hx =>
    have hb' := below_of_readEntry hs hf hb he
    have hsub := suffix_readEntry he
    rw [readEntries] at h
    split at h
    · simp at h
    · rename_i he'
      rw [he] at he'
      simp at he'
      obtain ⟨rfl, rfl⟩ := he'
      simp [hc, hx] at h
      subst h
      exact ⟨hb', (List.tail_suffix _).trans hsub⟩
  | case3 settings tokens settings' rest he hc hx ih =>
    have hb' := below_of_readEntry hs hf hb he
    have hsub := suffix_readEntry he
    rw [readEntries] at h
    split at h
    · simp at h
    · rename_i he'
      rw [he] at he'
      simp at he'
      obtain ⟨rfl, rfl⟩ := he'
      rw [if_pos hc, if_neg hx] at h
      have hsub' := (List.tail_suffix rest).trans hsub
      have := ih (fun t ht => hf t (hsub'.subset ht)) hb' h
      exact ⟨this.1, this.2.trans hsub'⟩
  | case4 settings tokens settings' rest he hc =>
    have hb' := below_of_readEntry hs hf hb he
    have hsub := suffix_readEntry he
    rw [readEntries] at h
    split at h
    · simp at h
    · rename_i he'
      rw [he] at he'
      simp at he'
      obtain ⟨rfl, rfl⟩ := he'
      rw [if_neg hc] at h
      simp at h
      subst h
      exact ⟨hb', hsub⟩

theorem below_of_readSettings {size : Nat} (hs : 0 < size) {tokens : List Token}
    {r : Settings SettingValue × List Token} (hf : ∀ token ∈ tokens, token.Fits size)
    (h : readSettings tokens = .ok r) : Settings.Below size r.1 ∧ r.2 <:+ tokens := by
  unfold readSettings at h
  split at h
  · split at h
    · simp at h
    · rename_i settings rest he
      have hb := below_of_readEntries hs (fun t ht => hf t (List.mem_of_mem_tail ht))
        (below_empty size) he
      cases hx : expectToken .mapEnd .closingBraceExpected rest with
      | error e => simp [hx, Except.map] at h
      | ok rest' =>
        simp [hx, Except.map] at h
        subst h
        exact ⟨hb.1, ((suffix_expectToken hx).trans hb.2).trans (List.tail_suffix _)⟩
  · exact below_of_readEntries hs hf (below_empty size) h

theorem suffix_readName {tokens : List Token} {r : String × List Token}
    (h : readName tokens = .ok r) : r.2 <:+ tokens := by
  unfold readName at h
  split at h
  · split at h
    all_goals simp at h
    all_goals subst h
    all_goals exact List.suffix_cons _ _
  · simp at h

theorem below_of_readDetails {size : Nat} (hs : 0 < size) {tokens : List Token}
    {r : (Option String × Settings SettingValue) × List Token}
    (hf : ∀ token ∈ tokens, token.Fits size) (h : readDetails tokens = .ok r) :
    Settings.Below size r.1.2 ∧ r.2 <:+ tokens := by
  have ht1 : tokens.tail <:+ tokens := List.tail_suffix _
  have ht2 : tokens.tail.tail <:+ tokens := (List.tail_suffix _).trans ht1
  have ht3 : tokens.tail.tail.tail <:+ tokens := (List.tail_suffix _).trans ht2
  unfold readDetails at h
  simp only at h
  split at h
  · simp at h
    subst h
    exact ⟨below_empty size, List.suffix_rfl⟩
  split at h
  · split at h
    · cases hr : readSettings tokens.tail.tail.tail with
      | error e => simp [hr, Except.map] at h
      | ok s =>
        simp [hr, Except.map] at h
        subst h
        have := below_of_readSettings hs (fun t ht => hf t (ht3.subset ht)) hr
        exact ⟨this.1, this.2.trans ht3⟩
    · simp at h
      subst h
      exact ⟨below_empty size, ht2⟩
  · cases hr : readSettings tokens.tail with
    | error e => simp [hr, Except.map] at h
    | ok s =>
      simp [hr, Except.map] at h
      subst h
      have := below_of_readSettings hs (fun t ht => hf t (ht1.subset ht)) hr
      exact ⟨this.1, this.2.trans ht1⟩

theorem rank_of_readPlaceholder {size : Nat} {tokens : List Token}
    {r : Placeholder × List Token} (hf : ∀ token ∈ tokens, token.Fits size)
    (h : readPlaceholder tokens = .ok r) : r.1.rank ≤ size ∧ r.2 <:+ tokens := by
  unfold readPlaceholder at h
  split at h
  · simp at h
  rename_i rest1 hp
  have hs : 0 < size := by
    unfold expectToken at hp
    split at hp
    · rename_i token rest
      split at hp
      · rename_i hk
        simpa [Token.Fits, hk] using hf token (by simp)
      · simp at hp
    · simp at hp
  have h1 := suffix_expectToken hp
  split at h
  · simp at h
  rename_i hn
  have h2 := (suffix_readName hn).trans h1
  split at h
  · simp at h
  rename_i format settings rest hd
  have h3 := below_of_readDetails hs (fun t ht => hf t (h2.subset ht)) hd
  cases hx : expectToken .placeholderEnd .closingBraceExpected rest with
  | error e => simp [hx, Except.map] at h
  | ok rest' =>
    simp [hx, Except.map] at h
    subst h
    refine ⟨?_, ((suffix_expectToken hx).trans h3.2).trans h2⟩
    have : Settings.rank settings ≤ size - 1 :=
      Settings.rank_le fun value hv => by
        have := h3.1 value hv
        omega
    simp only [Placeholder.rank_eq]
    omega

theorem rank_of_readParts {size : Nat} {tokens : List Token} {parts : List Part}
    (hf : ∀ token ∈ tokens, token.Fits size) (h : readParts tokens = .ok parts) :
    ∀ part ∈ parts, part.rank ≤ size := by
  induction tokens using readParts.induct generalizing parts with
  | case1 => simp [readParts] at h; simp [h]
  | case2 token rest hk => simp [readParts, hk] at h; simp [h]
  | case3 token rest before after hk ih =>
    rw [readParts] at h
    simp only [hk] at h
    cases hr : readParts rest with
    | error e => simp [hr, Except.map] at h
    | ok ps =>
      simp [hr, Except.map] at h
      subst h
      have := ih (fun t ht => hf t (by simp [ht])) hr
      simp [Part.rank]
      exact this
  | case4 token rest hk e he =>
    rw [readParts] at h
    simp only [hk] at h
    split at h <;> simp_all
  | case5 token rest hk place rest' hp ih =>
    rw [readParts] at h
    simp only [hk] at h
    split at h
    · simp at h
    · rename_i place' rest'' hp'
      rw [hp] at hp'
      simp at hp'
      obtain ⟨rfl, rfl⟩ := hp'
      cases hr : readParts rest' with
      | error e => simp [hr, Except.map] at h
      | ok ps =>
        simp [hr, Except.map] at h
        subst h
        have hpl := rank_of_readPlaceholder hf hp
        have := ih (fun t ht => hf t (hpl.2.subset ht)) hr
        intro part hm
        rcases List.mem_cons.1 hm with rfl | hm
        · exact hpl.1
        · exact this part hm
  | case6 token rest h1 h2 h3 =>
    rw [readParts] at h
    split at h <;> simp_all

/-! ## Folding keeps ranks -/

theorem Part.rank_addSpaces (part : Part) (before after : Bool) :
    (part.addSpaces before after).rank = part.rank := by
  cases part with
  | literal text => rfl
  | placeholder place => cases place; rfl

theorem Part.rank_of_mem_foldBehind {n : Nat} {last part : Part} {parts : List Part}
    (hl : last.rank ≤ n) (hn : ∀ part ∈ parts, part.rank ≤ n)
    (h : part ∈ Part.foldBehind last parts) : part.rank ≤ n := by
  induction parts generalizing last with
  | nil => simp [foldBehind] at h; exact h ▸ hl
  | cons p ps ih =>
    simp only [foldBehind] at h
    split at h
    · exact ih (by rwa [rank_addSpaces]) (fun q hq => hn q (by simp [hq])) h
    · rcases List.mem_cons.1 h with rfl | h
      · exact hl
      · exact ih (hn p (by simp)) (fun q hq => hn q (by simp [hq])) h

theorem Part.rank_of_mem_foldEmptyFrom {n : Nat} {pending : Bool} {part : Part}
    {parts : List Part} (hn : ∀ part ∈ parts, part.rank ≤ n)
    (h : part ∈ Part.foldEmptyFrom pending parts) : part.rank ≤ n := by
  induction parts generalizing pending with
  | nil => simp [foldEmptyFrom] at h
  | cons p ps ih =>
    simp only [foldEmptyFrom] at h
    split at h
    · exact ih (fun q hq => hn q (by simp [hq])) h
    · exact rank_of_mem_foldBehind (by simpa [rank_addSpaces] using hn p (by simp))
        (fun q hq => hn q (by simp [hq])) h

theorem Message.rank_ofParts_le {n : Nat} {parts : List Part} (hn : ∀ part ∈ parts, part.rank ≤ n) :
    (Message.ofParts parts).rank ≤ n := by
  have hf : ∀ part ∈ Part.foldEmpty parts, part.rank ≤ n :=
    fun part h => Part.rank_of_mem_foldEmptyFrom hn h
  unfold Message.ofParts
  split
  · simp [Message.rank]
  · rename_i part hp
    exact hf part (by simp [hp])
  · exact Part.rankAll_le hf

/-! ## The result -/

namespace Template

/-- The message of a template ranks no higher than the template is long. -/
theorem rank_le_of_parse? {source : String} {message : Message} (h : parse? source = .ok message) :
    message.rank ≤ source.length := by
  unfold parse? at h
  split at h
  · simp at h
  · rename_i tokens ht
    cases hr : readParts tokens with
    | error e => simp [hr, Except.map] at h
    | ok parts =>
      simp [hr, Except.map] at h
      subst h
      exact Message.rank_ofParts_le (rank_of_readParts (fits_of_tokenize ht) hr)

theorem rank_le_of_parse {source : String} {message : Message} (h : parse source = .ok message) :
    message.rank ≤ source.length := by
  unfold parse at h
  split at h
  · simp at h
  · simp at h
    subst h
    exact rank_le_of_parse? (by assumption)

end Template

/-! ## Values as messages -/

namespace SettingValue

/-- The value as a message. Strings are read as templates; truth values and integers say their
    text. -/
def toMessage : SettingValue → Except TemplateError Message
  | .message inner => .ok inner
  | .string quoted => Template.parse quoted.source
  | .bool value => .ok (.ofText (boolText value))
  | .number value => .ok (.ofText (intText value.toInt))

/-- The message of a value ranks no higher than the value. -/
theorem rank_le_of_toMessage {value : SettingValue} {message : Message}
    (h : value.toMessage = .ok message) : message.rank ≤ value.rank := by
  cases value with
  | message m => simp [toMessage] at h; simp [h, rank]
  | string q => exact Template.rank_le_of_parse h
  | bool b => simp [toMessage] at h; simp [← h, Message.rank_ofText]
  | number n => simp [toMessage] at h; simp [← h, Message.rank_ofText]

end SettingValue

end Phrasebook
