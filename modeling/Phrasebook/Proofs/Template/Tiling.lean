import Phrasebook.Proofs.Template.Places

/-! # Tokens tile a template

    A step of the scanner skips whitespace if it is inside a placeholder, and what it reads behind
    that is covered by its tokens without a gap (`tiles_of_scanStep`). So the tokens of a template
    come in the order of the source, they do not overlap, and what none of them covers is whitespace
    between the opening of a placeholder and the brace that closes it. A token shows the source it
    covers, unless it is text, which has its escape sequences resolved. -/

namespace Phrasebook

/-! ### Places of tokens -/

namespace Token

/-- The token covers the character at an offset. -/
def Covers (token : Token) (offset : Nat) : Prop := token.start ≤ offset ∧ offset < token.stop

/-- The first token ends no later than the second one starts. Quoted text may be empty, so the second
    part says that the two do not lie at the same place with nothing between them. -/
def Before (first second : Token) : Prop :=
  first.stop ≤ second.start ∧ first.start < second.stop

/-- The token shows the source that it covers. Quoted text keeps it apart, literal text not at all,
    and the end of the source has none. -/
def Sliced (token : Token) (source : List Char) : Prop :=
  match token.kind with
  | .text _ _ | .eof => True
  | .quotedText raw => raw.toList = token.span.text source
  | _ => token.text.toList = token.span.text source

/-- The token lies between two offsets, and it starts in front of the second one. -/
structure LiesIn (token : Token) (start stop : Nat) : Prop where
  /-- It starts no earlier than the first offset. -/
  start_le : start ≤ token.start
  /-- It does not end before it starts. -/
  ordered : token.start ≤ token.stop
  /-- It ends no later than the second offset. -/
  stop_le : token.stop ≤ stop
  /-- It does not start there. -/
  start_lt : token.start < stop

theorem LiesIn.before {first second : Token} {start stop : Nat} (h : first.LiesIn start stop)
    (hstart : stop ≤ second.start) (hstop : second.start ≤ second.stop) : first.Before second :=
  ⟨h.stop_le.trans hstart, h.start_lt.trans_le (hstart.trans hstop)⟩

theorem sliced_of_isSingle {token : Token} {source : List Char}
    (kind : token.kind.isSingle = true) (text : token.text.toList = token.span.text source) :
    token.Sliced source := by
  unfold Sliced
  split
  · trivial
  · trivial
  · rename_i raw hraw
    simp [hraw, TokenKind.isSingle] at kind
  · exact text

variable {source read rest : List Char} {kind : TokenKind} {text : String}

/-- Between two places stands what is read from the one to the other. -/
theorem text_between (h : read ++ rest <:+ source) :
    (between source.length kind text (read ++ rest) rest).span.text source = read := by
  obtain ⟨front, rfl⟩ := h
  have hstart : (front ++ (read ++ rest)).length - (read ++ rest).length = front.length := by
    rw [List.length_append, Nat.add_sub_cancel]
  have hsize : (front ++ (read ++ rest)).length - rest.length - front.length = read.length := by
    simp only [List.length_append]
    omega
  simp only [Span.text, Token.span, between]
  rw [hstart, hsize, List.drop_left, List.take_left]

theorem liesIn_between (h : read ++ rest <:+ source) (hread : read ≠ []) :
    (between source.length kind text (read ++ rest) rest).LiesIn
      (source.length - (read ++ rest).length) (source.length - rest.length) := by
  have hle := h.length_le
  have hpos := List.length_pos_iff.2 hread
  rw [List.length_append] at hle
  refine ⟨Nat.le_refl _, ?_, Nat.le_refl _, ?_⟩ <;>
    simp only [between, List.length_append] <;> omega

end Token

/-! ### What a step covers -/

/-- What was read behind the place `start` is covered by the tokens of the step. -/
structure ScanStep.Tiles (step : ScanStep) (source start : List Char) : Prop where
  /-- They come in the order of the source. -/
  ordered : step.tokens.Pairwise Token.Before
  /-- They lie between the place and what is left. -/
  bounded : ∀ token ∈ step.tokens,
    token.LiesIn (source.length - start.length) (source.length - step.rest.length)
  /-- They leave nothing out. -/
  covering : ∀ offset, source.length - start.length ≤ offset →
    offset < source.length - step.rest.length → ∃ token ∈ step.tokens, token.Covers offset
  /-- They show what they cover. -/
  sliced : ∀ token ∈ step.tokens, token.Sliced source

section Steps

variable {source start read rest : List Char} {kind : TokenKind} {mode : ScanMode}

/-- A step that reads one token up to the characters left. -/
theorem ScanStep.tiles_single {text : String} (h : start <:+ source) (hstart : start = read ++ rest)
    (hread : read ≠ [])
    (hsliced : (Token.between source.length kind text start rest).Sliced source) :
    (ScanStep.mk [.between source.length kind text start rest] mode rest).Tiles source start := by
  subst hstart
  constructor
  · exact List.pairwise_singleton _ _
  · exact List.forall_mem_singleton.2 (Token.liesIn_between h hread)
  · exact fun offset hle hlt => ⟨_, List.mem_singleton_self _, hle, hlt⟩
  · exact List.forall_mem_singleton.2 hsliced

/-- A step that reads one token as it is written. -/
theorem ScanStep.tiles_written (h : start <:+ source) (hstart : start = read ++ rest)
    (hread : read ≠ []) (hkind : kind.isSingle = true) :
    (ScanStep.mk [.between source.length kind (String.ofList read) start rest] mode rest).Tiles
      source start := by
  refine ScanStep.tiles_single h hstart hread (Token.sliced_of_isSingle hkind ?_)
  subst hstart
  rw [Token.text_between h]
  exact String.toList_ofList

end Steps

theorem tiles_of_scanTextStep {source cs : List Char} {step : ScanStep} (hs : cs <:+ source)
    (hcs : cs ≠ []) (h : scanTextStep source.length cs = .ok step) : step.Tiles source cs := by
  have hlt := scanTextStep_rest_lt hcs h
  obtain ⟨read, hread⟩ := (reads_of_scanTextStep h).rest
  have hne : read ≠ [] := by
    rintro rfl
    simp [← hread] at hlt
  unfold scanTextStep at h
  split at h
  · rename_i rest
    obtain rfl := Except.ok.inj h
    have hstart : '%' :: '\x7b' :: rest = ['%', '\x7b'] ++ rest := rfl
    exact ScanStep.tiles_written hs hstart (by simp) rfl
  · obtain ⟨run, -, rfl⟩ := exists_of_map_eq_ok h
    -- the token begins with the whitespace in front of the text
    exact ScanStep.tiles_single hs hread.symm hne trivial

theorem char_eq_of_quoteAt? {c : Char} {quote : Quote} (h : quoteAt? c = some quote) :
    c = quote.char := by
  unfold quoteAt? at h
  split at h <;> simp at h <;> subst h <;> rfl

theorem tiles_of_scanQuotedTokens {source cs rest : List Char} {c : Char} {quote : Quote}
    {tokens : List Token} (mode : ScanMode) (hs : c :: cs <:+ source)
    (hc : quoteAt? c = some quote)
    (h : scanQuotedTokens source.length quote (c :: cs) cs = .ok (tokens, rest)) :
    (ScanStep.mk tokens mode rest).Tiles source (c :: cs) := by
  unfold scanQuotedTokens at h
  obtain ⟨⟨text, closing⟩, hscan, hboth⟩ := exists_of_map_eq_ok h
  obtain ⟨raw, hraw, -⟩ := unescapeChars_of_scanQuoted hscan
  obtain ⟨tail, htail⟩ := List.head?_eq_some_iff.1 (scanQuoted_closing hscan).1
  obtain rfl := char_eq_of_quoteAt? hc
  simp only at hraw htail
  subst htail hraw
  obtain ⟨rfl, rfl⟩ := Prod.mk.inj hboth
  have hopening : [quote.char] ++ (raw ++ quote.char :: tail) <:+ source := hs
  have hcontent : raw ++ quote.char :: tail <:+ source := (List.suffix_cons _ _).trans hs
  have hclosing : [quote.char] ++ tail <:+ source := (List.suffix_append _ _).trans hcontent
  have htake : (raw ++ quote.char :: tail).take
      ((raw ++ quote.char :: tail).length - (quote.char :: tail).length) = raw := by
    rw [List.length_append, Nat.add_sub_cancel, List.take_left]
  have hle := hs.length_le
  simp only [List.length_cons, List.length_append] at hle
  constructor
  · simp only [List.pairwise_cons, List.mem_cons, List.not_mem_nil, or_false, List.Pairwise.nil,
      forall_eq_or_imp, forall_eq, false_imp_iff, implies_true, and_true, Token.Before,
      Token.between, List.length_cons, List.length_append, List.tail_cons]
    omega
  · intro token ht
    simp only [List.mem_cons, List.not_mem_nil, or_false] at ht
    rcases ht with rfl | rfl | rfl <;> constructor <;>
      simp only [Token.between, List.length_cons, List.length_append, List.tail_cons] <;> omega
  · -- an offset is that of the opening, one in the text or that of the closing
    intro offset hstart hstop
    simp only [List.mem_cons, List.not_mem_nil, or_false, exists_eq_or_imp, exists_eq_left,
      Token.Covers, Token.between, List.length_cons, List.length_append, List.tail_cons] at *
    omega
  · intro token ht
    simp only [List.mem_cons, List.not_mem_nil, or_false] at ht
    rcases ht with rfl | rfl | rfl
    · show (String.ofList [quote.char]).toList = _
      rw [String.toList_ofList]
      exact (Token.text_between hopening).symm
    · show (String.ofList _).toList = _
      rw [String.toList_ofList, htake]
      exact (Token.text_between hcontent).symm
    · show (String.ofList [quote.char]).toList = _
      rw [String.toList_ofList]
      exact (Token.text_between hclosing).symm

theorem isSingle_of_punctuationAt? {c : Char} {opened maps : Nat} {kind : TokenKind}
    {mode : ScanMode} (h : punctuationAt? c opened maps = some (kind, mode)) :
    kind.isSingle = true := by
  unfold punctuationAt? at h
  split at h <;> simp at h <;> obtain ⟨rfl, rfl⟩ := h <;> rfl

theorem PlaceholderStep.tiles {source cs : List Char} {opened maps : Nat} {c : Char}
    {step : ScanStep} (hs : c :: cs <:+ source)
    (h : PlaceholderStep source.length opened maps c cs step) : step.Tiles source (c :: cs) := by
  have hsingle : c :: cs = [c] ++ cs := rfl
  cases h with
  | punctuation hk =>
    exact ScanStep.tiles_written hs hsingle (by simp) (isSingle_of_punctuationAt? hk)
  | quoted hscan hq => exact tiles_of_scanQuotedTokens _ hs hq hscan
  | comparator relation two =>
    cases two with
    | false => exact ScanStep.tiles_written hs hsingle (by simp) rfl
    | true =>
      have hpair : c :: cs = c :: cs.take 1 ++ cs.tail := by
        rw [List.cons_append, ← List.drop_one, List.take_append_drop]
      exact ScanStep.tiles_written hs hpair (by simp) rfl
  | number hd hscan =>
    obtain ⟨rfl, n, rfl⟩ := scanNumber_eq_ok hscan
    refine ScanStep.tiles_written hs List.takeWhile_append_dropWhile.symm ?_ rfl
    rw [List.takeWhile_cons_of_pos hd]
    simp
  | negative hc hscan =>
    obtain ⟨rfl, n, rfl⟩ := scanNumber_eq_ok hscan
    refine ScanStep.tiles_written hs ?_ (by simp) rfl
    show c :: cs = '-' :: (cs.takeWhile isDigit ++ cs.dropWhile isDigit)
    rw [List.takeWhile_append_dropWhile, hc]
  | word hc =>
    refine ScanStep.tiles_written hs ?_ (by simp) (isSingle_ofWord _)
    rw [List.cons_append, List.takeWhile_append_dropWhile]

/-- A step covers what it reads behind the whitespace that it skips, and it skips whitespace inside a
    placeholder only. -/
theorem tiles_of_scanStep {source cs : List Char} {mode : ScanMode} {step : ScanStep}
    (hs : cs <:+ source) (h : scanStep source.length mode cs = .ok (some step)) :
    ∃ skipped start, cs = skipped ++ start ∧ step.Tiles source start ∧
      (∀ c ∈ skipped, isWhitespace c = true) ∧
      (skipped ≠ [] → ∃ opened maps, mode = .placeholder opened maps) := by
  rcases scanStep_cases h with ⟨-, hcs, htext⟩ | ⟨opened, maps, c, ds, rfl, hd, hstep⟩
  · exact ⟨[], cs, rfl, tiles_of_scanTextStep hs hcs htext, by simp, by simp⟩
  · have hstart : c :: ds <:+ source := by
      rw [← hd]
      exact (List.dropWhile_suffix isWhitespace).trans hs
    refine ⟨cs.takeWhile isWhitespace, c :: ds, ?_, hstep.tiles hstart, ?_, fun _ => ⟨_, _, rfl⟩⟩
    · rw [← hd, List.takeWhile_append_dropWhile]
    · exact List.all_eq_true.1 List.all_takeWhile

/-! ### Inside a placeholder -/

/-- The first of the tokens that opens or closes a placeholder closes one. -/
def ClosesAhead (tokens : List Token) : Prop :=
  ∃ inside closing behind, tokens = inside ++ closing :: behind ∧
    closing.kind = .placeholderEnd ∧
    ∀ token ∈ inside, token.kind ≠ .placeholderStart ∧ token.kind ≠ .placeholderEnd

/-- The offset lies behind the opening of a placeholder and in front of the brace that closes it. -/
def InsidePlaceholder (tokens : List Token) (offset : Nat) : Prop :=
  ∃ front opening inside closing behind,
    tokens = front ++ opening :: inside ++ closing :: behind ∧
    opening.kind = .placeholderStart ∧ closing.kind = .placeholderEnd ∧
    (∀ token ∈ inside, token.kind ≠ .placeholderStart ∧ token.kind ≠ .placeholderEnd) ∧
    opening.stop ≤ offset ∧ offset < closing.start

/-- A step that leads out of a placeholder reads the brace that closes it. -/
theorem PlaceholderStep.closing_of_mode {size opened maps : Nat} {c : Char} {cs : List Char}
    {step : ScanStep} (h : PlaceholderStep size opened maps c cs step) (hmode : step.mode = .text) :
    ∃ closing, step.tokens = [closing] ∧ closing.kind = .placeholderEnd := by
  cases h with
  | punctuation hk =>
    unfold punctuationAt? at hk
    split at hk <;> simp at hk <;> obtain ⟨rfl, rfl⟩ := hk
    case h_2 => exact ⟨_, rfl, rfl⟩
    -- the other marks do not lead outside
    all_goals cases hmode
  | quoted hs hq => cases hmode
  | comparator relation two => cases hmode
  | number hd hs => cases hmode
  | negative hc hs => cases hmode
  | word hc => cases hmode

/-- A placeholder that is closed behind a step is closed behind the place in front of it. -/
theorem PlaceholderStep.closesAhead {size opened maps : Nat} {c : Char} {cs : List Char}
    {step : ScanStep} {tokens : List Token} (h : PlaceholderStep size opened maps c cs step)
    (hbehind : ∀ opened maps, step.mode = .placeholder opened maps → ClosesAhead tokens) :
    ClosesAhead (step.tokens ++ tokens) := by
  rcases h.closes_or_stays with htext | ⟨⟨maps', hstays⟩, hinside⟩
  · obtain ⟨closing, htokens, hkind⟩ := h.closing_of_mode htext
    exact ⟨[], closing, tokens, by rw [htokens]; rfl, hkind, by simp⟩
  · obtain ⟨inside, closing, behind, rfl, hkind, hall⟩ := hbehind opened maps' hstays
    refine ⟨step.tokens ++ inside, closing, behind, (List.append_assoc _ _ _).symm, hkind, ?_⟩
    exact List.forall_mem_append.2 ⟨hinside, hall⟩

/-- What a run has read ends where the run stands. -/
theorem ScanRun.stop_le {source cs : List Char} {tokens : List Token} {mode : ScanMode}
    (run : ScanRun source tokens mode cs) :
    ∀ token ∈ tokens, token.stop ≤ source.length - cs.length := by
  induction run with
  | start => simp
  | @step tokens mode cs next run h ih =>
    obtain ⟨skipped, start, -, htiles, -, -⟩ := tiles_of_scanStep run.suffix h
    have hlt := scanStep_rest_lt h
    intro token ht
    rcases List.mem_append.1 ht with ht | ht
    · have := ih token ht
      omega
    · exact (htiles.bounded token ht).stop_le

/-- Where a run stands inside a placeholder, an offset in front of all that follows lies inside it. -/
theorem ScanRun.insidePlaceholder {source cs : List Char} {front tokens : List Token}
    {opened maps offset : Nat} (run : ScanRun source front (.placeholder opened maps) cs)
    (hcloses : ClosesAhead tokens) (hread : source.length - cs.length ≤ offset)
    (hahead : ∀ token ∈ tokens, offset < token.start) :
    InsidePlaceholder (front ++ tokens) offset := by
  obtain ⟨before, opening, since, rfl, hopening, -, hsince⟩ := (run.openSince rfl).split
  obtain ⟨inside, closing, behind, rfl, hclosing, hinside⟩ := hcloses
  refine ⟨before, opening, since ++ inside, closing, behind, by simp, hopening, hclosing, ?_, ?_, ?_⟩
  · exact List.forall_mem_append.2 ⟨hsince, hinside⟩
  · have := run.stop_le opening (by simp)
    omega
  · exact hahead closing (by simp)

/-! ### The whole source -/

/-- The tokens from some place on cover what is left of the source there, except for whitespace inside
    placeholders. -/
structure TiledFrom (source : List Char) (mode : ScanMode) (cs : List Char) (tokens : List Token) :
    Prop where
  /-- They come in the order of the source. -/
  ordered : tokens.Pairwise Token.Before
  /-- They lie behind the place. -/
  bounded : ∀ token ∈ tokens,
    source.length - cs.length ≤ token.start ∧ token.start ≤ token.stop
  /-- They show what they cover. -/
  sliced : ∀ token ∈ tokens, token.Sliced source
  /-- The end of the source is the last of them, and it stands there once. -/
  ending : ∃ front, tokens = front ++ [⟨.eof, source.length, source.length, ""⟩] ∧
    ∀ token ∈ front, token.kind ≠ .eof
  /-- They close a placeholder that is open at the place. -/
  closing : ∀ opened maps, mode = .placeholder opened maps → ClosesAhead tokens
  /-- Whatever was read in front of the place, they leave out nothing but whitespace inside of
      placeholders. -/
  gaps : ∀ front, ScanRun source front mode cs → ∀ offset, (h : offset < source.length) →
    source.length - cs.length ≤ offset → (∀ token ∈ tokens, ¬ token.Covers offset) →
    isWhitespace source[offset] = true ∧ InsidePlaceholder (front ++ tokens) offset

theorem tiledFrom_ending {source cs : List Char} (h : scanStep source.length .text cs = .ok none) :
    TiledFrom source .text cs [⟨.eof, source.length, source.length, ""⟩] := by
  have hcs : cs = [] := by
    simp only [scanStep] at h
    split at h
    · rename_i hempty
      exact List.isEmpty_iff.1 hempty
    · obtain ⟨step, -, hstep⟩ := exists_of_map_eq_ok h
      cases hstep
  subst hcs
  constructor
  · exact List.pairwise_singleton _ _
  · exact List.forall_mem_singleton.2 ⟨Nat.sub_le _ _, Nat.le_refl _⟩
  · exact List.forall_mem_singleton.2 trivial
  · exact ⟨[], rfl, by simp⟩
  · exact fun opened maps hmode => by cases hmode
  · intro front run offset hlt hle
    exact absurd hlt (Nat.not_lt.2 hle)

/-- What is skipped in front of a step is whitespace. -/
theorem isWhitespace_of_skipped {source skipped start : List Char} (hs : skipped ++ start <:+ source)
    (hw : ∀ c ∈ skipped, isWhitespace c = true) {offset : Nat} (h : offset < source.length)
    (hle : source.length - (skipped ++ start).length ≤ offset)
    (hlt : offset < source.length - start.length) : isWhitespace source[offset] = true := by
  obtain ⟨front, rfl⟩ := hs
  simp only [List.length_append] at hle hlt
  have hfront : front.length ≤ offset := by omega
  rw [List.getElem_append_right hfront, List.getElem_append_left (by omega)]
  exact hw _ (List.getElem_mem _)

theorem TiledFrom.step {source cs : List Char} {mode : ScanMode} {step : ScanStep}
    {tokens : List Token} (hs : cs <:+ source)
    (h : scanStep source.length mode cs = .ok (some step))
    (hrest : TiledFrom source step.mode step.rest tokens) :
    TiledFrom source mode cs (step.tokens ++ tokens) := by
  obtain ⟨skipped, start, hcs, htiles, hw, hskipped⟩ := tiles_of_scanStep hs h
  have hlt := scanStep_rest_lt h
  have hstart : source.length - cs.length ≤ source.length - start.length := by
    rw [hcs, List.length_append]
    omega
  have hcloses : ∀ opened maps, mode = .placeholder opened maps →
      ClosesAhead (step.tokens ++ tokens) := by
    rintro opened maps rfl
    rcases scanStep_cases h with ⟨hmode, -, -⟩ | ⟨_, _, c, ds, -, -, hstep⟩
    · cases hmode
    · exact hstep.closesAhead hrest.closing
  constructor
  · refine List.pairwise_append.2 ⟨htiles.ordered, hrest.ordered, ?_⟩
    intro first hfirst second hsecond
    have ⟨hplace, hstop⟩ := hrest.bounded second hsecond
    exact (htiles.bounded first hfirst).before hplace hstop
  · refine List.forall_mem_append.2 ⟨fun token ht => ?_, fun token ht => ?_⟩
    · have hlies := htiles.bounded token ht
      exact ⟨hstart.trans hlies.start_le, hlies.ordered⟩
    · have ⟨hplace, hstop⟩ := hrest.bounded token ht
      exact ⟨by omega, hstop⟩
  · exact List.forall_mem_append.2 ⟨htiles.sliced, hrest.sliced⟩
  · obtain ⟨front, rfl, hfront⟩ := hrest.ending
    refine ⟨step.tokens ++ front, (List.append_assoc _ _ _).symm, ?_⟩
    exact List.forall_mem_append.2 ⟨(lexeme_of_scanStep h).kind_ne_eof, hfront⟩
  · exact hcloses
  · intro front run offset hoffset hle huncovered
    rcases Nat.lt_or_ge offset (source.length - step.rest.length) with hread | hbehind
    · -- the tokens of the step begin behind the offset, so it was skipped in front of them
      have hskip : offset < source.length - start.length := by
        by_contra hnot
        obtain ⟨token, ht, hcovers⟩ := htiles.covering offset (Nat.le_of_not_lt hnot) hread
        exact huncovered token (List.mem_append_left _ ht) hcovers
      obtain ⟨opened, maps, rfl⟩ : ∃ opened maps, mode = .placeholder opened maps := by
        refine hskipped fun hnil => ?_
        rw [hcs, hnil, List.nil_append] at hle
        omega
      constructor
      · exact isWhitespace_of_skipped (hcs ▸ hs) hw hoffset (hcs ▸ hle) hskip
      · refine run.insidePlaceholder (hcloses opened maps rfl) hle ?_
        refine List.forall_mem_append.2 ⟨fun token ht => ?_, fun token ht => ?_⟩
        · exact hskip.trans_le (htiles.bounded token ht).start_le
        · exact hread.trans_le (hrest.bounded token ht).1
    · -- the offset lies behind the step
      rw [← List.append_assoc]
      refine hrest.gaps _ (run.step h) offset hoffset hbehind fun token ht => ?_
      exact huncovered token (List.mem_append_right _ ht)

theorem tiledFrom_of_scanTokens {source cs : List Char} {mode : ScanMode} {tokens : List Token}
    (hs : cs <:+ source) (h : scanTokens source.length mode cs = .ok tokens) :
    TiledFrom source mode cs tokens := by
  -- a step leaves an ending of the source again, so the induction carries that along
  refine scanTokens_induction
    (motive := fun mode cs tokens => cs <:+ source → TiledFrom source mode cs tokens) ?_ ?_ h hs
  · exact fun cs hend _ => tiledFrom_ending hend
  · intro mode cs step tokens hstep ih hcs
    exact .step hcs hstep (ih ((reads_of_scanStep hstep).rest.trans hcs))

/-- The tokens cover the source once, except for whitespace inside placeholders. -/
structure Tiling (source : List Char) (tokens : List Token) : Prop where
  /-- They come in the order of the source and do not overlap. -/
  ordered : tokens.Pairwise Token.Before
  /-- They lie within the source. -/
  within : ∀ token ∈ tokens, token.span.Within source.length
  /-- What none of them covers is whitespace inside a placeholder. -/
  gaps : ∀ offset, (h : offset < source.length) → (∀ token ∈ tokens, ¬ token.Covers offset) →
    isWhitespace source[offset] = true ∧ InsidePlaceholder tokens offset
  /-- The end of the source is the last of them and no other one. -/
  ending : ∃ front, tokens = front ++ [⟨.eof, source.length, source.length, ""⟩] ∧
    ∀ token ∈ front, token.kind ≠ .eof
  /-- They show the source that they cover. -/
  sliced : ∀ token ∈ tokens, token.Sliced source

/-- The tokens of a template tile it, and every step of the scanner that finds them reads at least one
    character. -/
theorem tiling_of_tokenize {source : String} {tokens : List Token}
    (h : tokenize source = .ok tokens) :
    Tiling source.toList tokens ∧
      ∀ mode cs step, scanStep source.length mode cs = .ok (some step) →
        ∃ read, read ≠ [] ∧ cs = read ++ step.rest := by
  have hlength : source.length = source.toList.length := (String.length_toList).symm
  have htiled : TiledFrom source.toList .text source.toList tokens := by
    refine tiledFrom_of_scanTokens List.suffix_rfl ?_
    rw [← hlength]
    exact h
  refine ⟨⟨htiled.ordered, ?_, ?_, htiled.ending, htiled.sliced⟩, ?_⟩
  · rw [← hlength]
    exact within_of_tokenize h
  · intro offset hoffset huncovered
    have hread : source.toList.length - source.toList.length ≤ offset := by omega
    exact htiled.gaps [] .start offset hoffset hread huncovered
  · intro mode cs step hstep
    obtain ⟨read, rfl⟩ := (reads_of_scanStep hstep).rest
    refine ⟨read, ?_, rfl⟩
    rintro rfl
    exact absurd (scanStep_rest_lt hstep) (Nat.lt_irrefl _)

/-- A name with a space in front of it and one behind it. -/
theorem tiling_of_tokenize_spaces : ∃ tokens, tokenize "%\x7b x \x7d" = .ok tokens ∧
    (∀ token ∈ tokens, ¬ token.Covers 2 ∧ ¬ token.Covers 4) ∧
    Tiling "%\x7b x \x7d".toList tokens ∧
      ∀ mode cs step, scanStep "%\x7b x \x7d".length mode cs = .ok (some step) →
        ∃ read, read ≠ [] ∧ cs = read ++ step.rest := by
  let scanned : List Token := [⟨.placeholderStart, 0, 2, "%\x7b"⟩, ⟨.name, 3, 4, "x"⟩,
    ⟨.placeholderEnd, 5, 6, "\x7d"⟩, ⟨.eof, 6, 6, ""⟩]
  have ht : tokenize "%\x7b x \x7d" = .ok scanned := by
    show scanTokens 6 .text ['%', '\x7b', ' ', 'x', ' ', '\x7d'] = _
    refine scanTokens_of_step ⟨[_], .placeholder 0 0, [' ', 'x', ' ', '\x7d']⟩ rfl ?_
    refine scanTokens_of_step ⟨[_], .placeholder 0 0, [' ', '\x7d']⟩ rfl ?_
    exact scanTokens_of_step ⟨[_], .text, []⟩ rfl (scanTokens_of_end rfl)
  have hgaps : ∀ token ∈ scanned, ¬ token.Covers 2 ∧ ¬ token.Covers 4 := by
    simp [scanned, Token.Covers]
  exact ⟨scanned, ht, hgaps, tiling_of_tokenize ht⟩

end Phrasebook
