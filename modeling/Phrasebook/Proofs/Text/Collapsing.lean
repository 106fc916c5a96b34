import Mathlib.Data.List.Chain
import Phrasebook.Message.Source
import Phrasebook.Proofs.Text.Quoting

/-! # Literal text is scanned again

    There are many ways to write a text (`Spelled`), but none escapes whitespace: outside of
    placeholders escapes are written for backslashes and openings only, and inside of quotes for all
    percent signs. So text that is written and scanned again comes back with its runs of whitespace
    collapsed (`collapse`), and with flags for the whitespace at its ends (`Literal.reread`).

    It comes back as it was if it is tight: whitespace in it is single spaces between other
    characters. -/

namespace Phrasebook

/-! ### Collapsing -/

/-- The text with a space for every run of whitespace in front of a character; no space stands for
    whitespace at the end, but the second component tells of it. The flag tells that whitespace was
    seen since the last character. -/
def collapse : (pending : Bool) → List Char → List Char × Bool
  | pending, [] => ([], pending)
  | pending, c :: cs =>
    if isWhitespace c then collapse true cs
    else
      let run := collapse false cs
      (if pending then ' ' :: c :: run.1 else c :: run.1, run.2)

theorem collapse_whitespace {c : Char} (h : isWhitespace c = true) (pending : Bool)
    (cs : List Char) : collapse pending (c :: cs) = collapse true cs := by
  rw [collapse, if_pos h]

theorem collapse_cons {c : Char} (h : isWhitespace c = false) (pending : Bool) (cs : List Char) :
    collapse pending (c :: cs) =
      (if pending then ' ' :: c :: (collapse false cs).1 else c :: (collapse false cs).1,
        (collapse false cs).2) := by
  rw [collapse, if_neg (Bool.not_eq_true _ ▸ h)]

/-! ### Spelling -/

/-- What may stand behind literal text: the end of the source, or a placeholder. -/
def EndsText (behind : List Char) : Prop := behind = [] ∨ ∃ more, behind = '%' :: '{' :: more

/-- Escapes hide a brace from a percent sign, but make none visible. -/
theorem head?_of_escapeLiteralChars {cs behind : List Char} (hb : EndsText behind)
    (h : (escapeLiteralChars cs ++ behind).head? = some '{') : cs.head? = some '{' := by
  cases cs with
  | nil =>
    rcases hb with rfl | ⟨more, rfl⟩
    · simp [escapeLiteralChars] at h
    · simp [escapeLiteralChars] at h
  | cons c cs =>
    rw [escapeLiteralChars] at h
    split at h
    · simp at h
    · simpa using h

/-- The characters are a way to write a text in front of what stands behind it: a character as it is,
    if it neither begins an escape sequence nor opens a placeholder, or behind a backslash, if it is
    no whitespace and begins no code. -/
inductive Spelled (behind : List Char) : (written cs : List Char) → Prop
  /-- Nothing is written. -/
  | nil : Spelled behind [] []
  /-- A character as it is. -/
  | plain {c : Char} {written cs : List Char} (hc : c ≠ '\\')
      (hopen : ¬ (c = '%' ∧ (written ++ behind).head? = some '{')) (h : Spelled behind written cs) :
      Spelled behind (c :: written) (c :: cs)
  /-- A character behind a backslash. -/
  | escaped {c : Char} {written cs : List Char} (hu : c ≠ 'u') (hw : isWhitespace c = false)
      (h : Spelled behind written cs) : Spelled behind ('\\' :: c :: written) (c :: cs)

/-- Outside of placeholders, only the percent signs that would open one are escaped. -/
theorem spelled_escapeLiteralChars {behind : List Char} (hb : EndsText behind) (cs : List Char) :
    Spelled behind (escapeLiteralChars cs) cs := by
  induction cs with
  | nil => exact .nil
  | cons c cs ih =>
    rw [escapeLiteralChars]
    split
    · rename_i hc
      -- the escaped character is a backslash or a percent sign
      rcases hc with rfl | ⟨rfl, -⟩
      · exact .escaped (by decide) (by decide) ih
      · exact .escaped (by decide) (by decide) ih
    · rename_i hc
      rw [not_or] at hc
      exact .plain hc.1 (fun h => hc.2 ⟨h.1, head?_of_escapeLiteralChars hb h.2⟩) ih

/-- Inside of quotes all percent signs are escaped, so it does not matter what stands behind them. -/
theorem spelled_escapeChars (behind cs : List Char) : Spelled behind (escapeChars cs) cs := by
  induction cs with
  | nil => exact .nil
  | cons c cs ih =>
    rw [escapeChars]
    split
    · rename_i hc
      simp only [needsEscape, Bool.or_eq_true, beq_iff_eq] at hc
      rcases hc with ((rfl | rfl) | rfl) | rfl <;> exact .escaped (by decide) (by decide) ih
    · rename_i hc
      simp only [needsEscape, Bool.or_eq_true, beq_iff_eq, not_or] at hc
      exact .plain hc.1.1.1 (fun h => hc.2 h.1) ih

section Spelled

variable {behind written cs : List Char}

theorem Spelled.ne_nil (h : Spelled behind written cs) (hcs : cs ≠ []) : written ≠ [] := by
  cases h with
  | nil => exact absurd rfl hcs
  | plain => exact List.cons_ne_nil _ _
  | escaped => exact List.cons_ne_nil _ _

theorem Spelled.eq_nil (h : Spelled behind written []) : written = [] := by
  cases h
  rfl

/-- Written text is scanned with its whitespace collapsed. -/
theorem scanText_of_spelled (hb : EndsText behind) (h : Spelled behind written cs)
    (pending : Bool) :
    scanText pending (written ++ behind) =
      .ok ⟨(collapse pending cs).1, (collapse pending cs).2, behind⟩ := by
  induction h generalizing pending with
  | nil =>
    rcases hb with rfl | ⟨more, rfl⟩
    · simp [scanText, collapse]
    · simp [scanText, collapse]
  | @plain c written cs hc hopen h ih =>
    rw [List.cons_append, scanText, if_neg hopen]
    cases hw : isWhitespace c with
    | true => rw [if_pos rfl, ih, collapse_whitespace hw]
    | false =>
      rw [if_neg (by decide), if_neg hc, ih, collapse_cons hw]
      rfl
  | @escaped c written cs hu hw h ih =>
    rw [List.cons_append, List.cons_append, scanText_of_readEscape (readEscape_of_ne hu _), ih,
      collapse_cons hw]
    rfl

/-- Whitespace is written as it is. -/
theorem dropWhile_of_spelled (hb : EndsText behind) (h : Spelled behind written cs) :
    ∃ dropped, Spelled behind dropped (cs.dropWhile isWhitespace) ∧
      (written ++ behind).dropWhile isWhitespace = dropped ++ behind := by
  induction h with
  | nil => exact ⟨[], .nil, by rcases hb with rfl | ⟨more, rfl⟩ <;> rfl⟩
  | @plain c written cs hc hopen h ih =>
    cases hw : isWhitespace c with
    | true =>
      rw [List.cons_append, List.dropWhile_cons_of_pos hw, List.dropWhile_cons_of_pos hw]
      exact ih
    | false =>
      have hneg : ¬ isWhitespace c = true := by simp [hw]
      rw [List.cons_append, List.dropWhile_cons_of_neg hneg, List.dropWhile_cons_of_neg hneg]
      exact ⟨c :: written, .plain hc hopen h, rfl⟩
  | @escaped c written cs hu hw h ih =>
    rw [List.dropWhile_cons_of_neg (by simp [hw]), List.cons_append,
      List.dropWhile_cons_of_neg (by decide)]
    exact ⟨'\\' :: c :: written, .escaped hu hw h, rfl⟩

/-- The first character is written as it is if it is whitespace. -/
theorem head?_of_spelled (h : Spelled behind written cs) (hcs : cs ≠ []) :
    (written ++ behind).head?.map isWhitespace = cs.head?.map isWhitespace := by
  cases h with
  | nil => exact absurd rfl hcs
  | plain => rfl
  | escaped hu hw => exact congrArg some hw.symm

end Spelled

/-! ### Tight text -/

/-- Whitespace in the text is single spaces, each of them between two other characters. -/
structure Tight (cs : List Char) : Prop where
  /-- All whitespace is spaces. -/
  spaces : ∀ c ∈ cs, isWhitespace c = true → c = ' '
  /-- No two of them are neighbours. -/
  apart : cs.IsChain fun c d => isWhitespace c = false ∨ isWhitespace d = false
  /-- The text begins with another character. -/
  first : ∃ c ∈ cs.head?, isWhitespace c = false
  /-- The text ends with another character. -/
  last : ∃ c ∈ cs.getLast?, isWhitespace c = false

/-- The characters are the rest of a tight text. The flag tells that no whitespace may follow, as
    they stand behind a space or at the beginning. -/
def TightFrom : (spaced : Bool) → List Char → Prop
  | spaced, [] => spaced = false
  | spaced, c :: cs =>
    if isWhitespace c then c = ' ' ∧ spaced = false ∧ TightFrom true cs else TightFrom false cs

theorem tightFrom_cons {c : Char} (h : isWhitespace c = false) {spaced : Bool} {cs : List Char} :
    TightFrom spaced (c :: cs) ↔ TightFrom false cs := by
  rw [TightFrom, if_neg (Bool.not_eq_true _ ▸ h)]

theorem tightFrom_whitespace {c : Char} (h : isWhitespace c = true) {spaced : Bool}
    {cs : List Char} :
    TightFrom spaced (c :: cs) ↔ c = ' ' ∧ spaced = false ∧ TightFrom true cs := by
  rw [TightFrom, if_pos h]

theorem tightFrom_iff {spaced : Bool} {cs : List Char} :
    TightFrom spaced cs ↔
      (∀ c ∈ cs, isWhitespace c = true → c = ' ') ∧
        (cs.IsChain fun c d => isWhitespace c = false ∨ isWhitespace d = false) ∧
        (spaced = true → ∃ c ∈ cs.head?, isWhitespace c = false) ∧
        (cs ≠ [] → ∃ c ∈ cs.getLast?, isWhitespace c = false) := by
  induction cs generalizing spaced with
  | nil => simp [TightFrom]
  | cons c cs ih =>
    cases hc : isWhitespace c with
    | false =>
      rw [tightFrom_cons hc, ih]
      cases cs with
      | nil => simp [hc]
      | cons d cs => simp [hc, List.isChain_cons_cons]
    | true =>
      rw [tightFrom_whitespace hc, ih]
      cases cs with
      | nil => simp [hc]
      | cons d cs =>
        simp only [List.isChain_cons_cons, List.forall_mem_cons, List.head?_cons, hc]
        grind

theorem tight_iff_tightFrom {cs : List Char} : Tight cs ↔ TightFrom true cs := by
  rw [tightFrom_iff]
  constructor
  · exact fun h => ⟨h.spaces, h.apart, fun _ => h.first, fun _ => h.last⟩
  · rintro ⟨hspaces, hapart, hfirst, hlast⟩
    refine ⟨hspaces, hapart, hfirst rfl, hlast ?_⟩
    rintro rfl
    simp at hfirst

/-- Collapsed text has no whitespace at its end, and single spaces in it. -/
theorem tightFrom_collapse (pending : Bool) (cs : List Char) :
    TightFrom false (collapse pending cs).1 := by
  induction cs generalizing pending with
  | nil => rfl
  | cons c cs ih =>
    cases hc : isWhitespace c with
    | true =>
      rw [collapse_whitespace hc]
      exact ih true
    | false =>
      rw [collapse_cons hc]
      cases pending with
      | false => exact (tightFrom_cons hc).2 (ih false)
      | true =>
        exact (tightFrom_whitespace isWhitespace_space).2 ⟨rfl, rfl, (tightFrom_cons hc).2 (ih false)⟩

/-- A space if the flag is set. -/
def spaces (flag : Bool) : List Char := if flag then [' '] else []

theorem toList_spaceIf (flag : Bool) : (spaceIf flag).toList = spaces flag := by
  cases flag <;> rfl

/-- Tight text stays as it is when it is collapsed, and a space behind it is told of. -/
theorem collapse_of_tightFrom {spaced pending : Bool} {cs : List Char} (h : TightFrom spaced cs)
    (hp : pending = true → spaced = true) (after : Bool) :
    collapse pending (cs ++ spaces after) = (if pending then ' ' :: cs else cs, after) := by
  induction cs generalizing spaced pending with
  | nil =>
    obtain rfl : spaced = false := h
    obtain rfl : pending = false := by simpa using hp
    cases after <;> rfl
  | cons c cs ih =>
    cases hc : isWhitespace c with
    | true =>
      -- the space is dropped here, and the character behind it brings it back
      obtain ⟨rfl, rfl, hcs⟩ := (tightFrom_whitespace hc).1 h
      obtain rfl : pending = false := by simpa using hp
      rw [List.cons_append, collapse_whitespace hc, ih hcs fun _ => rfl]
      rfl
    | false =>
      rw [List.cons_append, collapse_cons hc, ih ((tightFrom_cons hc).1 h) (by simp)]
      rfl

/-! ### Literals -/

namespace Literal

/-- The literal that is scanned where characters were written with their escapes. -/
def scanned (cs : List Char) : Literal :=
  let run := collapse false (cs.dropWhile isWhitespace)
  let before := (cs.head?.map isWhitespace).getD false
  ⟨String.ofList run.1, before, if run.1.isEmpty then before else run.2⟩

/-- The text with the spaces around it. -/
def chars (text : Literal) : List Char :=
  spaces text.spaceBefore ++ text.text.toList ++ spaces text.spaceAfter

/-- The literal that is scanned where the literal was written. -/
def reread (text : Literal) : Literal := scanned text.chars

end Literal

theorem escapeLiteralChars_space (cs : List Char) :
    escapeLiteralChars (' ' :: cs) = ' ' :: escapeLiteralChars cs := by
  rw [escapeLiteralChars, if_neg (by simp)]

theorem escapeLiteralChars_append_space (cs : List Char) :
    escapeLiteralChars (cs ++ [' ']) = escapeLiteralChars cs ++ [' '] := by
  induction cs with
  | nil => exact escapeLiteralChars_space []
  | cons c cs ih =>
    have hhead : (cs ++ [' ']).head? = some '{' ↔ cs.head? = some '{' := by
      cases cs <;> simp
    simp only [List.cons_append, escapeLiteralChars, hhead, ih]
    split <;> rfl

/-- Spaces around a text are written as they are. -/
theorem Literal.escapeLiteralChars_chars (text : Literal) :
    escapeLiteralChars text.chars =
      spaces text.spaceBefore ++ escapeLiteralChars text.text.toList ++ spaces text.spaceAfter := by
  obtain ⟨text, before, after⟩ := text
  cases before <;> cases after <;>
    simp [chars, spaces, escapeLiteralChars_space, escapeLiteralChars_append_space]

/-- Text that is written is scanned as one run of text. -/
theorem scanTextStep_of_spelled (size : Nat) {behind written cs : List Char}
    (hb : EndsText behind) (h : Spelled behind written cs) (hcs : cs ≠ []) :
    scanTextStep size (written ++ behind) =
      .ok ⟨[.between size (.text (Literal.scanned cs).spaceBefore (Literal.scanned cs).spaceAfter)
          (Literal.scanned cs).text (written ++ behind) behind], .text, behind⟩ := by
  unfold scanTextStep
  split
  · -- what was written does not open a placeholder
    rename_i rest hstart
    cases h with
    | nil => exact absurd rfl hcs
    | plain hc hopen h =>
      obtain ⟨rfl, hrest⟩ := List.cons.inj hstart
      exact absurd ⟨rfl, congrArg List.head? hrest⟩ hopen
    | escaped hu hw h => cases (List.cons.inj hstart).1
  · obtain ⟨dropped, hdropped, hdrop⟩ := dropWhile_of_spelled hb h
    rw [hdrop, scanText_of_spelled hb hdropped, head?_of_spelled h hcs]
    rfl

namespace Literal

variable {text : Literal}

/-- A tight literal comes back as it was. -/
theorem reread_of_tight (h : Tight text.text.toList) : text.reread = text := by
  obtain ⟨text, before, after⟩ := text
  have hfrom := tight_iff_tightFrom.1 h
  cases hcs : text.toList with
  | nil =>
    rw [hcs] at hfrom
    cases hfrom
  | cons c cs =>
    rw [hcs] at hfrom
    have hc : isWhitespace c = false := by simpa [hcs] using h.first
    have hhead : ((spaces before ++ (c :: cs) ++ spaces after).head?.map isWhitespace).getD false =
        before := by
      cases before <;> simp [spaces, hc]
    have hdrop : (spaces before ++ (c :: cs) ++ spaces after).dropWhile isWhitespace =
        c :: cs ++ spaces after := by
      cases before <;> simp [spaces, hc, List.dropWhile_cons]
    have hrun : collapse false (c :: cs ++ spaces after) = (c :: cs, after) :=
      collapse_of_tightFrom hfrom (by simp) after
    have hempty : (c :: cs).isEmpty = false := rfl
    simp only [reread, scanned, chars, hcs, hhead, hdrop, hrun, hempty, Bool.false_eq_true, if_false]
    rw [← hcs, String.ofList_toList]

/-- What comes back is tight, or has no characters. -/
theorem tight_reread (h : text.reread.text.toList ≠ []) : Tight text.reread.text.toList := by
  rw [tight_iff_tightFrom]
  rw [reread, scanned, String.toList_ofList] at h ⊢
  -- the first character that is scanned is no whitespace
  cases hd : text.chars.dropWhile isWhitespace with
  | nil => simp [hd, collapse] at h
  | cons c cs =>
    have hc : isWhitespace c = false := by
      have := List.head?_dropWhile_not isWhitespace text.chars
      simpa [hd] using this
    have htight := tightFrom_collapse false (c :: cs)
    rw [collapse_cons hc] at htight ⊢
    exact (tightFrom_cons hc).2 ((tightFrom_cons hc).1 htight)

end Literal

end Phrasebook
