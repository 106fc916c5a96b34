import Phrasebook.Message.Basic
import Phrasebook.Proofs.Results
import Phrasebook.Template.Token.Scan

/-! # Escape sequences are resolved alike

    Templates are scanned by `readEscape`, which refuses malformed sequences; a source that is kept
    for later is resolved by `unescape`, which keeps them. Where the scanner succeeds, both give the
    same text. Writing escapes and resolving them gives the text back. -/

namespace Phrasebook

/-! ### Resolving step by step -/

theorem unescapeChars_cons {c : Char} (h : c ≠ '\\') (cs : List Char) :
    unescapeChars (c :: cs) = c :: unescapeChars cs := by
  cases cs with
  | nil => rfl
  | cons d cs =>
    conv => lhs; unfold unescapeChars
    rw [if_neg h]

theorem unescapeChars_escaped {d : Char} (h : d ≠ 'u') (cs : List Char) :
    unescapeChars ('\\' :: d :: cs) = d :: unescapeChars cs := by
  conv => lhs; unfold unescapeChars
  rw [if_pos rfl, if_neg h]

theorem unescapeChars_of_not_mem {cs : List Char} (h : '\\' ∉ cs) : unescapeChars cs = cs := by
  induction cs with
  | nil => rfl
  | cons c cs ih =>
    rw [List.mem_cons, not_or] at h
    rw [unescapeChars_cons (Ne.symm h.1), ih h.2]

/-- A text without backslashes stands for itself. -/
theorem unescape_of_not_mem {s : String} (h : '\\' ∉ s.toList) : unescape s = s := by
  rw [unescape, unescapeChars_of_not_mem h, String.ofList_toList]

/-! ### Writing and resolving -/

theorem unescapeChars_escapeChars (cs : List Char) : unescapeChars (escapeChars cs) = cs := by
  induction cs with
  | nil => rfl
  | cons c cs ih =>
    rw [escapeChars]
    split
    · rename_i hc
      -- an escaped character is itself unless it begins a code
      have hu : c ≠ 'u' := by
        rintro rfl
        simp [needsEscape] at hc
      rw [unescapeChars_escaped hu, ih]
    · rename_i hc
      have hb : c ≠ '\\' := by
        rintro rfl
        simp [needsEscape] at hc
      rw [unescapeChars_cons hb, ih]

theorem unescape_escape (s : String) : unescape (escape s) = s := by
  rw [unescape, escape, String.toList_ofList, unescapeChars_escapeChars, String.ofList_toList]

/-! ### String values -/

/-- The text of the string is what its source stands for. -/
def QuotedText.Faithful (quoted : QuotedText) : Prop := quoted.text = unescape quoted.source

theorem QuotedText.faithful_ofText (text : String) : (QuotedText.ofText text).Faithful :=
  (unescape_escape text).symm

theorem QuotedText.faithful_ofSource (source : String) :
    (QuotedText.ofSource source).Faithful := rfl

/-! ### Scanning and resolving -/

/-- Four digits that are read one by one are the digits of the number that they spell together. -/
theorem hexNumber?_of_readHex {cs rest : List Char} {code : Nat}
    (h : readHex 4 0 cs = .ok (code, rest)) :
    ∃ w x y z, cs = w :: x :: y :: z :: rest ∧ hexNumber? [w, x, y, z] = some code := by
  have step {count number : Nat} {cs : List Char} {r : Nat × List Char}
      (h : readHex (count + 1) number cs = .ok r) :
      ∃ c tail digit, cs = c :: tail ∧ hexValue? c = some digit ∧
        readHex count (number * 16 + digit) tail = .ok r := by
    cases cs with
    | nil => simp [readHex] at h
    | cons c tail =>
      rw [readHex] at h
      split at h
      · exact ⟨c, tail, _, rfl, ‹_›, h⟩
      · simp at h
  obtain ⟨w, _, dw, rfl, hw, h⟩ := step h
  obtain ⟨x, _, dx, rfl, hx, h⟩ := step h
  obtain ⟨y, _, dy, rfl, hy, h⟩ := step h
  obtain ⟨z, _, dz, rfl, hz, h⟩ := step h
  obtain ⟨rfl, rfl⟩ := Prod.mk.inj (Except.ok.inj h)
  refine ⟨w, x, y, z, rfl, ?_⟩
  -- a sign in front of the digits would count for `hexNumber?`, but is no digit
  have hplus : w ≠ '+' := by
    rintro rfl
    simp [hexValue?] at hw
  rw [hexNumber?]
  · simp [hw, hx, hy, hz]
  · simpa using hplus
  · simp

/-- A sequence that the scanner reads is resolved to the same character, whatever follows. -/
theorem unescapeChars_of_readEscape {cs rest : List Char} {d : Char}
    (h : readEscape cs = .ok (d, rest)) :
    ∃ written, cs = written ++ rest ∧
      ∀ more, unescapeChars ('\\' :: (written ++ more)) = d :: unescapeChars more := by
  cases cs with
  | nil => simp [readEscape] at h
  | cons c cs =>
    rw [readEscape] at h
    split at h
    · rename_i hc
      subst hc
      split at h
      · simp at h
      -- four digits are read before they are known to name a character
      rename_i code rest' hr
      split at h
      · rename_i d' hd
        obtain ⟨rfl, rfl⟩ := Prod.mk.inj (Except.ok.inj h)
        obtain ⟨w, x, y, z, rfl, hn⟩ := hexNumber?_of_readHex hr
        refine ⟨['u', w, x, y, z], rfl, fun more => ?_⟩
        have hb : (hexNumber? [w, x, y, z]).bind charOfCode? = some d' := by rw [hn]; exact hd
        simp only [List.cons_append, List.nil_append]
        rw [unescapeChars, if_pos rfl, if_pos rfl]
        simp only [hb]
      · simp at h
    · rename_i hc
      obtain ⟨rfl, rfl⟩ := Prod.mk.inj (Except.ok.inj h)
      exact ⟨[c], rfl, fun more => unescapeChars_escaped hc more⟩

/-- The text between two quotes is what its source stands for. -/
theorem unescapeChars_of_scanQuoted {quote : Quote} {opening cs text closing : List Char}
    (h : scanQuoted quote opening cs = .ok (text, closing)) :
    ∃ source, cs = source ++ closing ∧ unescapeChars source = text := by
  -- the source grows with the scan: what an escape was written as is kept in front of the rest
  induction cs using scanQuoted.induct quote generalizing text closing with
  | case1 => simp [scanQuoted] at h
  | case2 cs =>
    rw [scanQuoted, if_pos rfl] at h
    obtain ⟨rfl, rfl⟩ := Prod.mk.inj (Except.ok.inj h)
    exact ⟨[], rfl, rfl⟩
  | case3 cs failure hf hq =>
    rw [scanQuoted_of_readEscape_error hf] at h
    cases h
  | case4 cs d rest hr hq ih =>
    rw [scanQuoted_of_readEscape hr] at h
    obtain ⟨r, hs, hboth⟩ := exists_of_map_eq_ok h
    obtain ⟨source, rfl, htext⟩ := ih hs
    obtain ⟨written, rfl, hw⟩ := unescapeChars_of_readEscape hr
    obtain ⟨rfl, rfl⟩ := Prod.mk.inj hboth
    exact ⟨'\\' :: (written ++ source), by simp, by rw [hw, htext]⟩
  | case5 c cs hq hb ih =>
    rw [scanQuoted, if_neg hq, if_neg hb] at h
    obtain ⟨r, hs, hboth⟩ := exists_of_map_eq_ok h
    obtain ⟨source, rfl, htext⟩ := ih hs
    obtain ⟨rfl, rfl⟩ := Prod.mk.inj hboth
    exact ⟨c :: source, rfl, by rw [unescapeChars_cons hb, htext]⟩

end Phrasebook
