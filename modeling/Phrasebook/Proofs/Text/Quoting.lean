import Phrasebook.Proofs.Text.Escapes

/-! # Quoted sources are scanned again

    A source stands between quotes if its escape sequences are well formed and the quote occurs in
    them only (`Escaped`). What `quoteSource` writes for a well formed source is of that kind, and
    the scanner finds the closing quote where it was written.

    The source that is scanned is the one that was quoted, unless both quotes occur in it: then
    apostrophes are escaped, and the source stays as it was only if they all were before. -/

namespace Phrasebook

/-! ### Escape sequences -/

theorem exists_digits_of_readHex {count number code : Nat} {cs rest : List Char}
    (h : readHex count number cs = .ok (code, rest)) :
    ∃ digits, cs = digits ++ rest ∧ (∀ c ∈ digits, (hexValue? c).isSome) ∧
      ∀ more, readHex count number (digits ++ more) = .ok (code, more) := by
  induction count generalizing number cs with
  | zero =>
    rw [readHex] at h
    obtain ⟨rfl, rfl⟩ := Prod.mk.inj (Except.ok.inj h)
    exact ⟨[], rfl, by simp, fun more => rfl⟩
  | succ count ih =>
    cases cs with
    | nil => simp [readHex] at h
    | cons c cs =>
      rw [readHex] at h
      split at h
      · rename_i digit hc
        obtain ⟨digits, rfl, hdigits, hread⟩ := ih h
        refine ⟨c :: digits, rfl, List.forall_mem_cons.2 ⟨by rw [hc]; rfl, hdigits⟩, fun more => ?_⟩
        rw [List.cons_append, readHex, hc]
        exact hread more
      · cases h

/-- What an escape sequence is written as: the character itself, or `u` and digits. -/
theorem readEscape_cases {cs rest : List Char} {d : Char} (h : readEscape cs = .ok (d, rest)) :
    (cs = d :: rest ∧ d ≠ 'u') ∨
      ∃ digits, cs = 'u' :: (digits ++ rest) ∧ (∀ c ∈ digits, (hexValue? c).isSome) ∧
        ∀ more, readEscape ('u' :: (digits ++ more)) = .ok (d, more) := by
  cases cs with
  | nil => simp [readEscape] at h
  | cons c cs =>
    rw [readEscape] at h
    split at h
    · rename_i hc
      subst hc
      split at h
      · cases h
      · rename_i code rest' hr
        obtain ⟨digits, rfl, hdigits, hread⟩ := exists_digits_of_readHex hr
        split at h
        · rename_i d' hd
          obtain ⟨rfl, rfl⟩ := Prod.mk.inj (Except.ok.inj h)
          refine .inr ⟨digits, rfl, hdigits, fun more => ?_⟩
          rw [readEscape, if_pos rfl, hread]
          simp only [hd]
        · cases h
    · rename_i hc
      obtain ⟨rfl, rfl⟩ := Prod.mk.inj (Except.ok.inj h)
      exact .inl ⟨rfl, hc⟩

theorem readEscape_of_ne {d : Char} (h : d ≠ 'u') (cs : List Char) :
    readEscape (d :: cs) = .ok (d, cs) := by
  rw [readEscape, if_neg h]

/-- What stands behind a sequence does not matter to it. -/
theorem readEscape_append {cs rest : List Char} {d : Char} (h : readEscape cs = .ok (d, rest))
    (more : List Char) : readEscape (cs ++ more) = .ok (d, rest ++ more) := by
  rcases readEscape_cases h with ⟨rfl, hd⟩ | ⟨digits, rfl, -, hread⟩
  · exact readEscape_of_ne hd _
  · rw [List.cons_append, List.append_assoc]
    exact hread _

/-! ### Escaped sources -/

/-- Escape sequences are well formed, and the condition holds of the characters outside of them. -/
inductive Escaped (bare : Char → Prop) : List Char → Prop
  /-- Nothing is written. -/
  | nil : Escaped bare []
  /-- A character outside of escape sequences. -/
  | plain {c : Char} {cs : List Char} (hc : c ≠ '\\') (hb : bare c) (h : Escaped bare cs) :
      Escaped bare (c :: cs)
  /-- An escape sequence. -/
  | escape {cs rest : List Char} {d : Char} (hr : readEscape cs = .ok (d, rest))
      (h : Escaped bare rest) : Escaped bare ('\\' :: cs)

/-- Escape sequences are well formed. -/
def WellEscaped (cs : List Char) : Prop := Escaped (fun _ => True) cs

/-- The source may stand between quotes. -/
def Enclosable (quote : Quote) (cs : List Char) : Prop := Escaped (· ≠ quote.char) cs

namespace Escaped

variable {bare bare' : Char → Prop} {cs : List Char}

theorem imp_of_mem (himp : ∀ c ∈ cs, bare c → bare' c) (h : Escaped bare cs) :
    Escaped bare' cs := by
  induction h with
  | nil => exact .nil
  | @plain c cs hc hb _ ih =>
    refine .plain hc (himp c List.mem_cons_self hb) (ih fun d hd => ?_)
    exact himp d (List.mem_cons_of_mem c hd)
  | @escape cs rest d hr _ ih =>
    obtain ⟨written, rfl, -⟩ := unescapeChars_of_readEscape hr
    refine .escape hr (ih fun d hd => ?_)
    exact himp d (List.mem_cons_of_mem _ (List.mem_append_right _ hd))

theorem imp (himp : ∀ c, bare c → bare' c) (h : Escaped bare cs) : Escaped bare' cs :=
  h.imp_of_mem fun c _ => himp c

theorem wellEscaped (h : Escaped bare cs) : WellEscaped cs := h.imp fun _ _ => trivial

/-- Without backslashes there are no escape sequences. -/
theorem of_not_mem (hb : ∀ c ∈ cs, bare c) (h : '\\' ∉ cs) : Escaped bare cs := by
  induction cs with
  | nil => exact .nil
  | cons c cs ih =>
    rw [List.mem_cons, not_or] at h
    rw [List.forall_mem_cons] at hb
    exact .plain (Ne.symm h.1) hb.1 (ih hb.2 h.2)

end Escaped

/-- A well escaped source without the quote may stand between quotes. -/
theorem WellEscaped.enclosable {cs : List Char} (h : WellEscaped cs) (quote : Quote)
    (hq : quote.char ∉ cs) : Enclosable quote cs :=
  Escaped.imp_of_mem (fun _ hc _ he => hq (he ▸ hc)) h

/-- Text with escapes may stand between quotes of either kind. -/
theorem enclosable_escapeChars (quote : Quote) (cs : List Char) :
    Enclosable quote (escapeChars cs) := by
  induction cs with
  | nil => exact .nil
  | cons c cs ih =>
    rw [escapeChars]
    split
    · rename_i hc
      have hu : c ≠ 'u' := by
        rintro rfl
        simp [needsEscape] at hc
      exact .escape (readEscape_of_ne hu _) ih
    · rename_i hc
      refine .plain ?_ ?_ ih
      · rintro rfl
        simp [needsEscape] at hc
      · rintro rfl
        cases quote <;> simp [needsEscape, Quote.char] at hc

/-! ### Scanning between quotes -/

/-- The closing quote is the first one outside of escape sequences. -/
theorem scanQuoted_of_enclosable {quote : Quote} {cs : List Char} (h : Enclosable quote cs)
    (opening rest : List Char) :
    scanQuoted quote opening (cs ++ quote.char :: rest) =
      .ok (unescapeChars cs, quote.char :: rest) := by
  induction h with
  | nil => rw [List.nil_append, scanQuoted, if_pos rfl, unescapeChars]
  | @plain c cs hc hb _ ih =>
    rw [List.cons_append, scanQuoted, if_neg hb, if_neg hc, ih, unescapeChars_cons hc]
    rfl
  | @escape cs rest' d hr _ ih =>
    have hquote : '\\' ≠ quote.char := by cases quote <;> decide
    obtain ⟨written, rfl, hw⟩ := unescapeChars_of_readEscape hr
    have hread := readEscape_append hr (quote.char :: rest)
    rw [List.cons_append, scanQuoted, if_neg hquote, if_pos rfl]
    split
    · rename_i failure hf
      cases hread.symm.trans hf
    · rename_i d' rest'' hr'
      obtain ⟨rfl, rfl⟩ := Prod.mk.inj (Except.ok.inj (hread.symm.trans hr'))
      rw [ih, hw]
      rfl

/-- What is scanned between quotes may stand there. -/
theorem enclosable_of_scanQuoted {quote : Quote} {opening cs text closing : List Char}
    (h : scanQuoted quote opening cs = .ok (text, closing)) :
    ∃ source, cs = source ++ closing ∧ Enclosable quote source := by
  induction cs using scanQuoted.induct quote generalizing text closing with
  | case1 => simp [scanQuoted] at h
  | case2 cs =>
    rw [scanQuoted, if_pos rfl] at h
    obtain ⟨rfl, rfl⟩ := Prod.mk.inj (Except.ok.inj h)
    exact ⟨[], rfl, .nil⟩
  | case3 cs failure hf hq =>
    rw [scanQuoted_of_readEscape_error hf] at h
    cases h
  | case4 cs d rest hr hq ih =>
    rw [scanQuoted_of_readEscape hr] at h
    obtain ⟨r, hs, hboth⟩ := exists_of_map_eq_ok h
    obtain ⟨-, rfl⟩ := Prod.mk.inj hboth
    obtain ⟨source, rfl, hsource⟩ := ih hs
    -- the sequence alone is read as it was in front of the rest
    rcases readEscape_cases hr with ⟨rfl, hd⟩ | ⟨digits, rfl, -, hread⟩
    · exact ⟨'\\' :: d :: source, rfl, .escape (readEscape_of_ne hd source) hsource⟩
    · refine ⟨'\\' :: 'u' :: (digits ++ source), by simp, .escape (hread source) hsource⟩
  | case5 c cs hq hb ih =>
    rw [scanQuoted, if_neg hq, if_neg hb] at h
    obtain ⟨r, hs, hboth⟩ := exists_of_map_eq_ok h
    obtain ⟨-, rfl⟩ := Prod.mk.inj hboth
    obtain ⟨source, rfl, hsource⟩ := ih hs
    exact ⟨c :: source, rfl, .plain hb hq hsource⟩

/-! ### Apostrophes -/

/-- Digits of codes are passed over when apostrophes are escaped. -/
theorem escapeApostrophes_digits {digits : List Char} (h : ∀ c ∈ digits, (hexValue? c).isSome)
    (more : List Char) :
    escapeApostrophes false (digits ++ more) = digits ++ escapeApostrophes false more := by
  induction digits with
  | nil => rfl
  | cons c digits ih =>
    rw [List.forall_mem_cons] at h
    have hq : c ≠ '\'' := by
      rintro rfl
      simp [hexValue?] at h
    have hb : (c == '\\' && !false) = false := by
      rw [Bool.and_eq_false_iff]
      refine .inl (beq_false_of_ne ?_)
      rintro rfl
      simp [hexValue?] at h
    rw [List.cons_append, escapeApostrophes, if_neg (by simp [hq]), hb, ih h.2, List.cons_append]

/-- Escape sequences stay when apostrophes are escaped. -/
theorem escapeApostrophes_escape {cs rest : List Char} {d : Char}
    (h : readEscape cs = .ok (d, rest)) :
    ∃ written, cs = written ++ rest ∧
      (∀ more, readEscape (written ++ more) = .ok (d, more)) ∧
      escapeApostrophes false ('\\' :: cs) = '\\' :: (written ++ escapeApostrophes false rest) := by
  have hbackslash (cs : List Char) :
      escapeApostrophes false ('\\' :: cs) = '\\' :: escapeApostrophes true cs := rfl
  have hfirst (c : Char) (cs : List Char) :
      escapeApostrophes true (c :: cs) = c :: escapeApostrophes false cs := by
    rw [escapeApostrophes, if_neg (by simp), Bool.not_true, Bool.and_false]
  rcases readEscape_cases h with ⟨rfl, hd⟩ | ⟨digits, rfl, hdigits, hread⟩
  · refine ⟨[d], rfl, fun more => readEscape_of_ne hd more, ?_⟩
    rw [hbackslash, hfirst]
    rfl
  · refine ⟨'u' :: digits, rfl, hread, ?_⟩
    rw [hbackslash, hfirst, escapeApostrophes_digits hdigits]
    rfl

/-- Once apostrophes are escaped, a well escaped source may stand between them. -/
theorem WellEscaped.enclosable_escapeApostrophes {cs : List Char} (h : WellEscaped cs) :
    Enclosable .single (escapeApostrophes false cs) := by
  induction h with
  | nil => exact .nil
  | @plain c cs hc _ _ ih =>
    rw [escapeApostrophes]
    split
    · rename_i hq
      rw [hq.1]
      exact .escape (readEscape_of_ne (by decide) _) ih
    · rename_i hq
      have hflag : (c == '\\' && !false) = false := by simp [hc]
      rw [hflag]
      exact .plain hc (fun he => hq ⟨he, by simp⟩) ih
  | escape hr _ ih =>
    obtain ⟨written, rfl, hread, he⟩ := escapeApostrophes_escape hr
    rw [he]
    exact .escape (hread _) ih

/-- Apostrophes that are escaped are not escaped again. -/
theorem Enclosable.escapeApostrophes_eq {cs : List Char} (h : Enclosable .single cs) :
    escapeApostrophes false cs = cs := by
  induction h with
  | nil => rfl
  | @plain c cs hc hb _ ih =>
    have hflag : (c == '\\' && !false) = false := by simp [hc]
    rw [escapeApostrophes, if_neg fun hq => hb hq.1, hflag, ih]
  | escape hr _ ih =>
    obtain ⟨written, rfl, -, he⟩ := escapeApostrophes_escape hr
    rw [he, ih]

/-- Escaping apostrophes leaves a source alone exactly if they all were escaped. -/
theorem WellEscaped.escapeApostrophes_eq_iff {cs : List Char} (h : WellEscaped cs) :
    escapeApostrophes false cs = cs ↔ Enclosable .single cs := by
  constructor
  · intro he
    have henc := h.enclosable_escapeApostrophes
    rwa [he] at henc
  · exact Enclosable.escapeApostrophes_eq

/-! ### Quoting a source -/

/-- The quote in which a source is enclosed. -/
def quoteFor (cs : List Char) : Quote := if '\'' ∈ cs ∧ '"' ∉ cs then .double else .single

/-- The source that stands between the quotes. -/
def requoteChars (cs : List Char) : List Char :=
  if '\'' ∈ cs ∧ '"' ∈ cs then escapeApostrophes false cs else cs

/-- The source that is read where a source was quoted. -/
def requote (source : String) : String := String.ofList (requoteChars source.toList)

theorem toList_quoteSource (source : String) :
    (quoteSource source).toList =
      (quoteFor source.toList).char ::
        (requoteChars source.toList ++ [(quoteFor source.toList).char]) := by
  unfold quoteSource quoteFor requoteChars
  by_cases hs : '\'' ∈ source.toList <;> by_cases hd : '"' ∈ source.toList <;>
    simp [hs, hd, Quote.char]

theorem WellEscaped.enclosable_requoteChars {cs : List Char} (h : WellEscaped cs) :
    Enclosable (quoteFor cs) (requoteChars cs) := by
  unfold quoteFor requoteChars
  by_cases hs : '\'' ∈ cs <;> by_cases hd : '"' ∈ cs
  · simpa [hs, hd] using h.enclosable_escapeApostrophes
  · simpa [hs, hd] using h.enclosable .double hd
  · simpa [hs, hd] using h.enclosable .single hs
  · simpa [hs, hd] using h.enclosable .single hs

/-- Quoting keeps a source, unless both quotes occur in it and an apostrophe is not escaped. -/
theorem requote_eq_iff {source : String} (h : WellEscaped source.toList) :
    requote source = source ↔
      ('\'' ∈ source.toList → '"' ∈ source.toList → Enclosable .single source.toList) := by
  have hchars : requote source = source ↔ requoteChars source.toList = source.toList := by
    rw [requote, ← String.toList_inj, String.toList_ofList]
  rw [hchars, requoteChars]
  split
  · rename_i hboth
    rw [h.escapeApostrophes_eq_iff]
    exact ⟨fun henc _ _ => henc, fun himp => himp hboth.1 hboth.2⟩
  · rename_i hnot
    exact ⟨fun _ hs hd => absurd ⟨hs, hd⟩ hnot, fun _ => rfl⟩

/-- Text with escapes is quoted as it is. -/
theorem requoteChars_escapeChars (cs : List Char) :
    requoteChars (escapeChars cs) = escapeChars cs := by
  unfold requoteChars
  split
  · exact (enclosable_escapeChars .single cs).escapeApostrophes_eq
  · rfl

end Phrasebook
