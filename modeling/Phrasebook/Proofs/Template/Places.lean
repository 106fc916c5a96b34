import Phrasebook.Proofs.Template.Printable
import Phrasebook.Proofs.Template.Sizes

/-! # Where tokens and failures of a scan lie

    What a step leaves is an ending of what it was given, so offsets grow along a scan and none is
    beyond the source: every token lies within it (`within_of_tokenize`), and so does what a failing
    step blames (`ScanFailure.within_toError`).

    One failure is not that of a step, a source that ends inside a placeholder. A scan is followed up
    to there as a run of steps (`ScanRun`), and what a run has read says since when a placeholder is
    open (`ScanRun.openSince`). -/

namespace Phrasebook

/-! ### Spans within a source -/

/-- The span ends no earlier than it starts, and it ends within the source. -/
structure Span.Within (span : Span) (size : Nat) : Prop where
  /-- It does not end before it starts. -/
  ordered : span.start ≤ span.stop
  /-- It does not end behind the source. -/
  bounded : span.stop ≤ size

theorem Span.within_between {start stop size : Nat} (hstart : start ≤ size) (hstop : stop ≤ size) :
    (Span.between start stop).Within size := by
  constructor
  · exact Span.start_le_stop_between start stop
  · exact Nat.max_le.2 ⟨hstop, hstart⟩

/-- Places given by what is left there lie within the source. -/
theorem ScanFailure.within_toError (size : Nat) (failure : ScanFailure) :
    (failure.toError size).span.Within size :=
  Span.within_between (Nat.sub_le _ _) (Nat.sub_le _ _)

/-- A token lies within the source if less is left behind it than in front of it. -/
theorem Token.within_between (size : Nat) (kind : TokenKind) (text : String)
    {start stop : List Char} (h : stop <:+ start) :
    (Token.between size kind text start stop).span.Within size := by
  have hle := h.length_le
  constructor
  · show size - start.length ≤ size - stop.length
    omega
  · exact Nat.sub_le _ _

/-! ### What a step reads -/

/-- What was read lies within the source, and what is left is an ending of what was there. -/
structure ScanStep.Reads (step : ScanStep) (size : Nat) (cs : List Char) : Prop where
  /-- The tokens lie within the source. -/
  within : ∀ token ∈ step.tokens, token.span.Within size
  /-- The characters left come last. -/
  rest : step.rest <:+ cs

/-- A step that reads one token up to the characters left. -/
theorem ScanStep.reads_between {size : Nat} {kind : TokenKind} {text : String} {mode : ScanMode}
    {start rest cs : List Char} (hrest : rest <:+ start) (hstart : start <:+ cs) :
    (ScanStep.mk [.between size kind text start rest] mode rest).Reads size cs := by
  constructor
  · intro token ht
    obtain rfl := List.mem_singleton.1 ht
    exact Token.within_between size kind text hrest
  · exact hrest.trans hstart

theorem reads_of_scanTextStep {size : Nat} {cs : List Char} {step : ScanStep}
    (h : scanTextStep size cs = .ok step) : step.Reads size cs := by
  unfold scanTextStep at h
  split at h
  · rename_i rest
    obtain rfl := Except.ok.inj h
    exact ScanStep.reads_between (List.suffix_append ['%', '\x7b'] rest) List.suffix_rfl
  · obtain ⟨run, hs, rfl⟩ := exists_of_map_eq_ok h
    have hrest : run.rest <:+ cs := (byteCount_of_scanText hs).2.trans (List.dropWhile_suffix _)
    exact ScanStep.reads_between hrest List.suffix_rfl

theorem reads_of_scanQuotedTokens {size : Nat} {quote : Quote} {c : Char} {cs rest : List Char}
    {tokens : List Token} (mode : ScanMode)
    (h : scanQuotedTokens size quote (c :: cs) cs = .ok (tokens, rest)) :
    (ScanStep.mk tokens mode rest).Reads size (c :: cs) := by
  unfold scanQuotedTokens at h
  obtain ⟨⟨text, closing⟩, hs, hboth⟩ := exists_of_map_eq_ok h
  obtain ⟨rfl, rfl⟩ := Prod.mk.inj hboth
  obtain ⟨source, rfl, -⟩ := unescapeChars_of_scanQuoted hs
  have hopening := List.suffix_cons c (source ++ closing)
  have hclosing := List.suffix_append source closing
  have htail := List.tail_suffix closing
  constructor
  · -- opening, text and closing lie between four places that follow each other
    intro token ht
    simp only [List.mem_cons, List.not_mem_nil, or_false] at ht
    rcases ht with rfl | rfl | rfl
    · exact Token.within_between size _ _ hopening
    · exact Token.within_between size _ _ hclosing
    · exact Token.within_between size _ _ htail
  · exact (htail.trans hclosing).trans hopening

theorem PlaceholderStep.reads {size opened maps : Nat} {c : Char} {cs : List Char}
    {step : ScanStep} (h : PlaceholderStep size opened maps c cs step) :
    step.Reads size (c :: cs) := by
  cases h with
  | punctuation hk => exact ScanStep.reads_between (List.suffix_cons c cs) List.suffix_rfl
  | quoted hs => exact reads_of_scanQuotedTokens _ hs
  | comparator relation two =>
    refine ScanStep.reads_between ?_ List.suffix_rfl
    split
    · exact (List.tail_suffix cs).trans (List.suffix_cons c cs)
    · exact List.suffix_cons c cs
  | number hd hs =>
    obtain ⟨rfl, n, rfl⟩ := scanNumber_eq_ok hs
    exact ScanStep.reads_between (List.dropWhile_suffix _) List.suffix_rfl
  | negative hc hs =>
    obtain ⟨rfl, n, rfl⟩ := scanNumber_eq_ok hs
    have hrest : cs.dropWhile isDigit <:+ c :: cs :=
      (List.dropWhile_suffix _).trans (List.suffix_cons c cs)
    exact ScanStep.reads_between hrest List.suffix_rfl
  | word hc =>
    have hrest : cs.dropWhile isNamePart <:+ c :: cs :=
      (List.dropWhile_suffix _).trans (List.suffix_cons c cs)
    exact ScanStep.reads_between hrest List.suffix_rfl

theorem reads_of_scanStep {size : Nat} {mode : ScanMode} {cs : List Char} {step : ScanStep}
    (h : scanStep size mode cs = .ok (some step)) : step.Reads size cs := by
  rcases scanStep_cases h with ⟨-, -, hs⟩ | ⟨opened, maps, c, ds, -, hd, hs⟩
  · exact reads_of_scanTextStep hs
  · have hspaces : c :: ds <:+ cs := hd ▸ List.dropWhile_suffix isWhitespace
    exact ⟨hs.reads.within, hs.reads.rest.trans hspaces⟩

/-- The tokens of a template lie within it. -/
theorem within_of_tokenize {source : String} {tokens : List Token}
    (h : tokenize source = .ok tokens) : ∀ token ∈ tokens, token.span.Within source.length := by
  refine scanTokens_induction
    (motive := fun _ _ tokens => ∀ token ∈ tokens, token.span.Within source.length) ?_ ?_ h
  · intro cs hs token ht
    obtain rfl := List.mem_singleton.1 ht
    exact ⟨Nat.le_refl _, Nat.le_refl _⟩
  · intro mode cs step tokens hs ih token ht
    rcases List.mem_append.1 ht with ht | ht
    · exact (reads_of_scanStep hs).within token ht
    · exact ih token ht

/-! ### Runs of the scanner -/

/-- What the scanner has read of a source, the mode behind it and the characters left. -/
inductive ScanRun (source : List Char) : List Token → ScanMode → List Char → Prop
  /-- Nothing is read yet. -/
  | start : ScanRun source [] .text source
  /-- One step more. -/
  | step {tokens : List Token} {mode : ScanMode} {cs : List Char} {next : ScanStep}
      (run : ScanRun source tokens mode cs)
      (h : scanStep source.length mode cs = .ok (some next)) :
      ScanRun source (tokens ++ next.tokens) next.mode next.rest

/-- What a run has left is the source from some place on. -/
theorem ScanRun.suffix {source cs : List Char} {tokens : List Token} {mode : ScanMode}
    (run : ScanRun source tokens mode cs) : cs <:+ source := by
  induction run with
  | start => exact List.suffix_rfl
  | step run h ih => exact (reads_of_scanStep h).rest.trans ih

/-- The last of the tokens that opens or closes a placeholder opens one, at an offset. -/
structure OpenSince (source : List Char) (opened : Nat) (tokens : List Token) : Prop where
  /-- It opened there, and nothing behind its opening opens or closes a placeholder. -/
  split : ∃ front opening inside, tokens = front ++ opening :: inside ∧
    opening.kind = .placeholderStart ∧ opening.start = opened ∧
    ∀ token ∈ inside, token.kind ≠ .placeholderStart ∧ token.kind ≠ .placeholderEnd
  /-- The source says so. -/
  written : ['%', '\x7b'] <+: source.drop opened

/-- It opened within the source. -/
theorem OpenSince.opened_le {source : List Char} {opened : Nat} {tokens : List Token}
    (h : OpenSince source opened tokens) : opened ≤ source.length := by
  have hle := h.written.length_le
  rw [List.length_drop] at hle
  simp only [List.length_cons, List.length_nil] at hle
  omega

/-- A step inside a placeholder closes it, or it stays in it and reads nothing that opens or closes
    one. -/
theorem PlaceholderStep.closes_or_stays {size opened maps : Nat} {c : Char} {cs : List Char}
    {step : ScanStep} (h : PlaceholderStep size opened maps c cs step) :
    step.mode = .text ∨ (∃ maps', step.mode = .placeholder opened maps') ∧
      ∀ token ∈ step.tokens, token.kind ≠ .placeholderStart ∧ token.kind ≠ .placeholderEnd := by
  cases h with
  | punctuation hk =>
    unfold punctuationAt? at hk
    split at hk <;> simp at hk <;> obtain ⟨rfl, rfl⟩ := hk
    -- of the marks only the brace that is no brace of a map leads outside
    case h_2 => exact .inl rfl
    all_goals exact .inr ⟨⟨_, rfl⟩, by simp [Token.between]⟩
  | quoted hs =>
    unfold scanQuotedTokens at hs
    obtain ⟨⟨text, closing⟩, -, hboth⟩ := exists_of_map_eq_ok hs
    obtain ⟨rfl, -⟩ := Prod.mk.inj hboth
    exact .inr ⟨⟨_, rfl⟩, by simp [Token.between]⟩
  | comparator relation two => exact .inr ⟨⟨_, rfl⟩, by simp [Token.between]⟩
  | number hd hs =>
    obtain ⟨-, n, rfl⟩ := scanNumber_eq_ok hs
    exact .inr ⟨⟨_, rfl⟩, by simp [Token.between]⟩
  | negative hc hs =>
    obtain ⟨-, n, rfl⟩ := scanNumber_eq_ok hs
    exact .inr ⟨⟨_, rfl⟩, by simp [Token.between]⟩
  | word hc =>
    refine .inr ⟨⟨_, rfl⟩, ?_⟩
    intro token ht
    obtain rfl := List.mem_singleton.1 ht
    show TokenKind.ofWord _ ≠ _ ∧ TokenKind.ofWord _ ≠ _
    rcases TokenKind.ofWord_cases (String.ofList (c :: cs.takeWhile isNamePart)) with
      (hk | hk | hk) | ⟨b, hk⟩ <;> rw [hk] <;> simp

/-- A step in literal text that leads into a placeholder reads its opening. -/
theorem opening_of_scanTextStep {size : Nat} {cs : List Char} {step : ScanStep}
    (h : scanTextStep size cs = .ok step) {opened maps : Nat}
    (hmode : step.mode = .placeholder opened maps) :
    ∃ rest, cs = '%' :: '\x7b' :: rest ∧ opened = size - cs.length ∧
      step.tokens = [.between size .placeholderStart "%\x7b" cs rest] := by
  unfold scanTextStep at h
  split at h
  · rename_i rest
    obtain rfl := Except.ok.inj h
    obtain ⟨rfl, -⟩ := ScanMode.placeholder.inj hmode
    exact ⟨rest, rfl, rfl, rfl⟩
  · obtain ⟨run, -, rfl⟩ := exists_of_map_eq_ok h
    cases hmode

/-- Inside a placeholder, what was read tells since when it is open. -/
theorem ScanRun.openSince {source cs : List Char} {tokens : List Token} {mode : ScanMode}
    (run : ScanRun source tokens mode cs) {opened maps : Nat}
    (hmode : mode = .placeholder opened maps) : OpenSince source opened tokens := by
  induction run generalizing opened maps with
  | start => cases hmode
  | @step tokens mode cs next run h ih =>
    rcases scanStep_cases h with ⟨rfl, -, hs⟩ | ⟨since, depth, c, ds, rfl, -, hs⟩
    · -- the placeholder was opened by this step
      obtain ⟨rest, hcs, rfl, htokens⟩ := opening_of_scanTextStep hs hmode
      rw [htokens]
      constructor
      · exact ⟨tokens, _, [], rfl, rfl, rfl, by simp⟩
      · rw [← List.suffix_iff_eq_drop.1 run.suffix, hcs]
        exact ⟨rest, rfl⟩
    · -- it was open before, and the step went on inside it
      rcases hs.closes_or_stays with htext | ⟨⟨depth', hstays⟩, hinside⟩
      · cases htext.symm.trans hmode
      obtain ⟨rfl, -⟩ := ScanMode.placeholder.inj (hmode.symm.trans hstays)
      obtain ⟨⟨front, opening, inside, rfl, hkind, hstart, hall⟩, hwritten⟩ := ih rfl
      refine ⟨⟨front, opening, inside ++ next.tokens, by simp, hkind, hstart, ?_⟩, hwritten⟩
      intro token ht
      rcases List.mem_append.1 ht with ht | ht
      · exact hall token ht
      · exact hinside token ht

/-! ### Failures -/

/-- The failure is that of a step, not that of a source which ends inside a placeholder. -/
def ScanFailure.OfStep (failure : ScanFailure) : Prop := failure.cause ≠ .unclosedPlaceholder

theorem ScanFailure.ofStep_ofEscape (start : List Char) (failure : EscapeFailure) :
    (ScanFailure.ofEscape start failure).OfStep := by
  unfold ofEscape
  split <;> simp [OfStep]

theorem failsOnly_scanText (pending : Bool) (cs : List Char) :
    FailsOnly ScanFailure.OfStep (scanText pending cs) := by
  -- literal text is refused for its escape sequences only
  induction pending, cs using scanText.induct with
  | case1 pending =>
    rw [scanText]
    exact failsOnly_ok _
  | case2 pending c cs hp =>
    rw [scanText, if_pos hp]
    exact failsOnly_ok _
  | case3 pending c cs hp hw ih =>
    rw [scanText, if_neg hp, if_pos hw]
    exact ih
  | case4 pending cs failure hf hp hw =>
    rw [scanText_of_readEscape_error hf]
    exact failsOnly_error (ScanFailure.ofStep_ofEscape _ _)
  | case5 pending cs d rest hr hp hw ih =>
    rw [scanText_of_readEscape hr]
    exact ih.map _
  | case6 pending c cs hp hw hb ih =>
    rw [scanText, if_neg hp, if_neg hw, if_neg hb]
    exact ih.map _

theorem failsOnly_scanQuoted (quote : Quote) (opening cs : List Char) :
    FailsOnly ScanFailure.OfStep (scanQuoted quote opening cs) := by
  induction cs using scanQuoted.induct quote with
  | case1 =>
    rw [scanQuoted]
    exact failsOnly_error (by simp [ScanFailure.OfStep])
  | case2 cs =>
    rw [scanQuoted, if_pos rfl]
    exact failsOnly_ok _
  | case3 cs failure hf hq =>
    rw [scanQuoted_of_readEscape_error hf]
    exact failsOnly_error (ScanFailure.ofStep_ofEscape _ _)
  | case4 cs d rest hr hq ih =>
    rw [scanQuoted_of_readEscape hr]
    exact ih.map _
  | case5 c cs hq hb ih =>
    rw [scanQuoted, if_neg hq, if_neg hb]
    exact ih.map _

theorem failsOnly_scanNumber (size : Nat) (negative : Bool) (cs digits : List Char) :
    FailsOnly ScanFailure.OfStep (scanNumber size negative cs digits) := by
  unfold scanNumber
  simp only
  split
  · exact failsOnly_ok _
  · exact failsOnly_error (by simp [ScanFailure.OfStep])

theorem failsOnly_scanPlaceholderStep (size opened maps : Nat) (c : Char) (cs : List Char) :
    FailsOnly ScanFailure.OfStep (scanPlaceholderStep size opened maps c cs) := by
  unfold scanPlaceholderStep
  simp only
  -- in the order of the scanner: marks, quoted texts, comparators, numbers without a sign and with
  -- one, words, and whatever begins no token
  split
  · exact failsOnly_ok _
  split
  · exact ((failsOnly_scanQuoted _ _ _).map _).map _
  split
  · exact failsOnly_ok _
  split
  · exact (failsOnly_scanNumber _ _ _ _).map _
  split
  · exact (failsOnly_scanNumber _ _ _ _).map _
  split
  · exact failsOnly_ok _
  · exact failsOnly_error (by simp [ScanFailure.OfStep])

theorem failsOnly_scanStep (size : Nat) (mode : ScanMode) (cs : List Char) :
    FailsOnly ScanFailure.OfStep (scanStep size mode cs) := by
  unfold scanStep
  split
  · split
    · exact failsOnly_ok _
    · refine FailsOnly.map ?_ _
      unfold scanTextStep
      split
      · exact failsOnly_ok _
      · exact (failsOnly_scanText _ _).map _
  · split
    · exact failsOnly_ok _
    · exact (failsOnly_scanPlaceholderStep _ _ _ _ _).map _

/-- A source that is not scanned: a step fails, or a placeholder is open at the end. -/
inductive ScanRefusal (source : List Char) : SyntaxError → Prop
  /-- A step fails. -/
  | step {tokens : List Token} {mode : ScanMode} {cs : List Char} {failure : ScanFailure}
      (run : ScanRun source tokens mode cs)
      (h : scanStep source.length mode cs = .error failure) :
      ScanRefusal source (failure.toError source.length)
  /-- The source ends inside a placeholder. -/
  | ending {tokens : List Token} {opened maps : Nat} {cs : List Char}
      (run : ScanRun source tokens (.placeholder opened maps) cs)
      (h : scanStep source.length (.placeholder opened maps) cs = .ok none) :
      ScanRefusal source ⟨.unclosedPlaceholder, Span.between opened source.length⟩

/-- From wherever a run has led to, an error of the scan is a refusal of the source. -/
theorem ScanRun.refusal {source cs : List Char} {front : List Token} {mode : ScanMode}
    (run : ScanRun source front mode cs) {e : SyntaxError}
    (h : scanTokens source.length mode cs = .error e) : ScanRefusal source e := by
  -- the induction is on the characters left; each step that is read prolongs the run in front
  induction mode, cs using scanTokens.induct source.length generalizing front with
  | case1 mode cs failure hs =>
    rw [scanTokens] at h
    split at h
    · rename_i failure' hs'
      obtain rfl := Except.error.inj h
      exact .step run hs'
    all_goals simp_all
  | case2 cs hs =>
    rw [scanTokens_of_end hs] at h
    cases h
  | case3 cs opened maps hs =>
    rw [scanTokens] at h
    split at h
    · simp_all
    · obtain rfl := Except.error.inj h
      exact .ending run hs
    · simp_all
  | case4 mode cs step hs ih =>
    rw [scanTokens_eq_map hs] at h
    exact ih (run.step hs) (eq_error_of_map_eq_error h)

theorem refusal_of_tokenize {source : String} {e : SyntaxError} (h : tokenize source = .error e) :
    ScanRefusal source.toList e := by
  have hlength : source.length = source.toList.length := (String.length_toList).symm
  rw [tokenize, hlength] at h
  exact ScanRun.start.refusal h

end Phrasebook
