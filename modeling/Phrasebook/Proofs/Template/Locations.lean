import Phrasebook.Proofs.Template.Refusals

/-! # Where errors are located

    The line of a place is the number of line feeds in front of it, its column the number of
    characters behind the last of them. So places that follow each other in the source follow each
    other in reading order (`Location.le_ofOffset`).

    A refused template is blamed at such places: they lie within the template and are in order
    (`Template.located_of_parse`). -/

namespace Phrasebook

namespace Location

variable (source : List Char)

/-- The characters behind the last line feed. -/
def lastLine (cs : List Char) : List Char := (cs.reverse.takeWhile (· ≠ '\n')).reverse

theorem lastLine_feed (cs : List Char) : lastLine (cs ++ ['\n']) = [] := by
  simp [lastLine]

theorem lastLine_append (cs : List Char) {ds : List Char} (h : '\n' ∉ ds) :
    lastLine (cs ++ ds) = lastLine cs ++ ds := by
  have hall : ∀ d ∈ ds.reverse, decide (d ≠ '\n') = true := by
    intro d hd
    have hmem := List.mem_reverse.1 hd
    simp only [decide_eq_true_eq]
    rintro rfl
    exact h hmem
  rw [lastLine, List.reverse_append, List.takeWhile_append_of_pos hall, List.reverse_append,
    List.reverse_reverse]
  rfl

/-- Characters are counted into lines, and those of the last line into its columns. -/
theorem foldl_step (offset : Nat) (cs : List Char) :
    cs.foldl step ⟨offset, 0, 0⟩ = ⟨offset, cs.count '\n', (lastLine cs).length⟩ := by
  induction cs using List.reverseRecOn with
  | nil => rfl
  | append_singleton cs c ih =>
    rw [List.foldl_append, ih, List.count_append]
    by_cases hc : c = '\n'
    · subst hc
      rw [lastLine_feed]
      rfl
    · have hline : '\n' ∉ [c] := by simpa using Ne.symm hc
      rw [lastLine_append cs hline, List.count_eq_zero_of_not_mem hline, List.length_append]
      simp [step, hc]

theorem ofOffset_eq (offset : Nat) :
    ofOffset source offset = ⟨offset, (source.take offset).count '\n',
      (lastLine (source.take offset)).length⟩ :=
  foldl_step offset _

/-- A place further on in the source is not in front in reading order. -/
theorem le_ofOffset {a b : Nat} (h : a ≤ b) : le (ofOffset source a) (ofOffset source b) := by
  obtain ⟨between, hb⟩ := List.take_prefix_take_left (l := source) h
  rw [ofOffset_eq, ofOffset_eq, ← hb]
  by_cases hfeed : '\n' ∈ between
  · -- a line feed between them puts the second place on a later line
    have hcount := List.count_pos_iff.2 hfeed
    left
    simp only [List.count_append]
    omega
  · right
    simp [lastLine_append _ hfeed, List.count_append, List.count_eq_zero_of_not_mem hfeed]

end Location

/-- The error is located in the source. -/
structure TemplateError.Located (e : TemplateError) (source : String) : Prop where
  /-- It names the source. -/
  input : e.input = source
  /-- The span does not end before it starts. -/
  ordered : e.error.span.start ≤ e.error.span.stop
  /-- It does not end behind the source. -/
  bounded : e.error.span.stop ≤ source.length
  /-- The line counts the line feeds in front of the start. -/
  line : (Location.ofOffset source.toList e.error.span.start).line =
    (source.toList.take e.error.span.start).count '\n'
  /-- The column counts the characters behind the last of them. -/
  column : (Location.ofOffset source.toList e.error.span.start).column =
    (Location.lastLine (source.toList.take e.error.span.start)).length
  /-- The start does not come after the end in reading order. -/
  reading : (Location.ofOffset source.toList e.error.span.start).le
    (Location.ofOffset source.toList e.error.span.stop)
  /-- If a closing brace is missing, the source ends inside the placeholder that opens at the start
      of the span. -/
  unclosed : e.error.cause = .unclosedPlaceholder →
    e.error.span.stop = source.length ∧ ∃ tokens opened maps cs,
      ScanRun source.toList tokens (.placeholder opened maps) cs ∧
        scanStep source.length (.placeholder opened maps) cs = .ok none ∧
        OpenSince source.toList e.error.span.start tokens

namespace Template

/-- What scanning and reading blame lies within the source. Only a source that ends inside a
    placeholder is blamed for that. -/
theorem within_of_parse? {source : String} {e : SyntaxError} (h : parse? source = .error e) :
    e.span.Within source.length ∧
      (e.cause = .unclosedPlaceholder → ∃ tokens opened maps cs,
        ScanRun source.toList tokens (.placeholder opened maps) cs ∧
          scanStep source.length (.placeholder opened maps) cs = .ok none ∧
          e.span = Span.between opened source.length) := by
  unfold parse? at h
  split at h
  · rename_i e' ht
    obtain rfl := Except.error.inj h
    have hlength : source.toList.length = source.length := String.length_toList
    cases refusal_of_tokenize ht with
    | @step tokens mode cs failure run hs =>
      refine ⟨hlength ▸ failure.within_toError _, ?_⟩
      intro hcause
      exact absurd hcause (failsOnly_scanStep _ mode cs failure hs)
    | @ending tokens opened maps cs run hs =>
      rw [hlength] at hs ⊢
      have hopened : opened ≤ source.length := hlength ▸ (run.openSince rfl).opened_le
      refine ⟨Span.within_between hopened (Nat.le_refl _), ?_⟩
      intro _
      exact ⟨tokens, opened, maps, cs, run, hs, rfl⟩
  · rename_i tokens ht
    have hblames := blames_of_readParts ht (eq_error_of_map_eq_error h)
    refine ⟨hblames.place, ?_⟩
    intro hcause
    have hgrammatical := hblames.cause
    rw [hcause] at hgrammatical
    cases hgrammatical

/-- The error of a refused template names the template and a span within it, whose ends are in
    reading order. Where a placeholder is not closed, the span starts with its opening. -/
theorem located_of_parse {source : String} {e : TemplateError} (h : parse source = .error e) :
    e.Located source := by
  unfold parse at h
  split at h
  · rename_i error herror
    obtain rfl := Except.error.inj h
    obtain ⟨hwithin, hopen⟩ := within_of_parse? herror
    refine ⟨rfl, hwithin.ordered, hwithin.bounded, ?_, ?_,
      Location.le_ofOffset _ hwithin.ordered, ?_⟩
    · rw [Location.ofOffset_eq]
    · rw [Location.ofOffset_eq]
    · intro hcause
      obtain ⟨tokens, opened, maps, cs, run, hs, hspan⟩ := hopen hcause
      have hbounded := hwithin.bounded
      simp only [hspan, Span.between] at hbounded ⊢
      exact ⟨by omega, tokens, opened, maps, cs, run, hs, run.openSince rfl⟩
  · cases h

/-- An open placeholder on the second line. -/
theorem located_of_parse_unclosed : ∃ e, parse "\n%\x7bn" = .error e ∧
    e.error = ⟨.unclosedPlaceholder, 1, 4⟩ ∧
    Location.ofOffset "\n%\x7bn".toList 1 = ⟨1, 1, 0⟩ ∧ e.Located "\n%\x7bn" := by
  have htext : scanStep 4 .text ['\n', '%', '\x7b', 'n'] =
      .ok (some ⟨[⟨.text true true, 0, 1, ""⟩], .text, ['%', '\x7b', 'n']⟩) := by
    have hrun : scanText false ['%', '\x7b', 'n'] = .ok ⟨[], false, ['%', '\x7b', 'n']⟩ := by
      rw [scanText, if_pos ⟨rfl, rfl⟩]
    show ((scanText false ['%', '\x7b', 'n']).map _).map some = _
    rw [hrun]
    rfl
  have hopen : scanStep 4 .text ['%', '\x7b', 'n'] =
      .ok (some ⟨[⟨.placeholderStart, 1, 3, "%\x7b"⟩], .placeholder 1 0, ['n']⟩) := rfl
  have hname : scanStep 4 (.placeholder 1 0) ['n'] =
      .ok (some ⟨[⟨.name, 3, 4, "n"⟩], .placeholder 1 0, []⟩) := rfl
  have htokens : tokenize "\n%\x7bn" = .error ⟨.unclosedPlaceholder, 1, 4⟩ := by
    show scanTokens 4 .text ['\n', '%', '\x7b', 'n'] = _
    rw [scanTokens_eq_map htext, scanTokens_eq_map hopen, scanTokens_eq_map hname,
      scanTokens.eq_def]
    rfl
  have hparse : parse "\n%\x7bn" = .error
      { input := "\n%\x7bn", error := ⟨.unclosedPlaceholder, 1, 4⟩ } := by
    unfold parse parse?
    rw [htokens]
  exact ⟨_, hparse, rfl, rfl, located_of_parse hparse⟩

end Template

end Phrasebook
