import Mathlib.Algebra.Ring.Nat
import Phrasebook.Proofs.Template.Printable

/-! # The two ways to resolve escape sequences

    The scanner refuses a malformed sequence where it stands, and `unescape` goes on behind it. So
    `resolve`, which reads sequences as the scanner does, gives a text for some sources only, and
    there `unescape` gives the same one. The source of quoted text is of that kind.

    Where the scanner refuses a code, `unescape` keeps the letter and what stands behind it, with
    one exception: a plus sign and three digits count as a code (`signedCode?`), because the number
    is read by a function that takes a sign. -/

namespace Phrasebook

/-! ### Resolving as the scanner does -/

/-- Resolves escape sequences, or fails at the first one that the scanner refuses. -/
def resolveChars : List Char → Except EscapeFailure (List Char)
  | [] => .ok []
  | c :: cs =>
    if c = '\\' then
      match _h : readEscape cs with
      | .error failure => .error failure
      | .ok (d, rest) => (resolveChars rest).map (d :: ·)
    else (resolveChars cs).map (c :: ·)
termination_by cs => cs.length
decreasing_by
  · have := readEscape_rest_lt _h
    simp at this ⊢
    omega
  · simp

/-- The text of a source whose escape sequences are those of the scanner. -/
def resolve (source : String) : Except EscapeFailure String :=
  (resolveChars source.toList).map String.ofList

theorem resolveChars_plain {c : Char} (h : c ≠ '\\') (cs : List Char) :
    resolveChars (c :: cs) = (resolveChars cs).map (c :: ·) := by
  rw [resolveChars, if_neg h]

theorem resolveChars_of_readEscape {cs rest : List Char} {d : Char}
    (h : readEscape cs = .ok (d, rest)) :
    resolveChars ('\\' :: cs) = (resolveChars rest).map (d :: ·) := by
  rw [resolveChars, if_pos rfl]
  split
  · rename_i failure hf
    cases h.symm.trans hf
  · rename_i d' rest' hr
    obtain ⟨rfl, rfl⟩ := Prod.mk.inj (Except.ok.inj (h.symm.trans hr))
    rfl

theorem resolveChars_of_readEscape_error {cs : List Char} {failure : EscapeFailure}
    (h : readEscape cs = .error failure) : resolveChars ('\\' :: cs) = .error failure := by
  rw [resolveChars, if_pos rfl]
  split
  · rename_i failure' hf
    obtain rfl := Except.error.inj (h.symm.trans hf)
    rfl
  · rename_i d rest hr
    cases h.symm.trans hr

/-- What is resolved is well escaped, and it stands for the same text either way. -/
theorem wellEscaped_of_resolveChars {cs text : List Char} (h : resolveChars cs = .ok text) :
    WellEscaped cs ∧ unescapeChars cs = text := by
  induction cs using resolveChars.induct generalizing text with
  | case1 =>
    rw [resolveChars] at h
    exact ⟨.nil, Except.ok.inj h⟩
  | case2 cs failure hf =>
    rw [resolveChars_of_readEscape_error hf] at h
    cases h
  | case3 cs d rest hr ih =>
    rw [resolveChars_of_readEscape hr] at h
    obtain ⟨more, hmore, rfl⟩ := exists_of_map_eq_ok h
    obtain ⟨hescaped, rfl⟩ := ih hmore
    obtain ⟨written, rfl, hw⟩ := unescapeChars_of_readEscape hr
    exact ⟨.escape hr hescaped, hw rest⟩
  | case4 c cs hc ih =>
    rw [resolveChars_plain hc] at h
    obtain ⟨more, hmore, rfl⟩ := exists_of_map_eq_ok h
    obtain ⟨hescaped, rfl⟩ := ih hmore
    exact ⟨.plain hc trivial hescaped, unescapeChars_cons hc cs⟩

/-- A well escaped source is resolved. -/
theorem WellEscaped.resolveChars_eq {cs : List Char} (h : WellEscaped cs) :
    resolveChars cs = .ok (unescapeChars cs) := by
  induction h with
  | nil => rw [resolveChars, unescapeChars]
  | plain hc _ _ ih =>
    rw [resolveChars_plain hc, ih, unescapeChars_cons hc]
    rfl
  | escape hr _ ih =>
    obtain ⟨written, rfl, hw⟩ := unescapeChars_of_readEscape hr
    rw [resolveChars_of_readEscape hr, ih, hw]
    rfl

/-- The source of quoted text is resolved to its text. -/
theorem resolve_of_tokenize {template : String} {tokens : List Token}
    (h : tokenize template = .ok tokens) {token : Token} (ht : token ∈ tokens) {raw : String}
    (hkind : token.kind = .quotedText raw) : resolve raw = .ok token.text := by
  have hwritten : WellEscaped raw.toList :=
    ((textsApart_of_scanTokens h).written token ht).source raw hkind
  have hfaithful : token.text = unescape raw :=
    ((isScanned_of_tokenize h).faithful token ht).1 raw hkind
  rw [resolve, hwritten.resolveChars_eq, hfaithful]
  rfl

/-! ### Codes -/

/-- Digits read one by one are those of the number that they spell together. -/
theorem toOption_readHex (digits : List Char) (number : Nat) (rest : List Char) :
    (readHex digits.length number (digits ++ rest)).toOption =
      (digits.foldlM (fun number d => (number * 16 + ·) <$> hexValue? d) number).map (·, rest) := by
  induction digits generalizing number with
  | nil => rfl
  | cons c digits ih =>
    rw [List.cons_append, List.length_cons, readHex, List.foldlM_cons]
    cases hc : hexValue? c with
    | none => rfl
    | some digit => exact ih _

theorem hexValue?_lt {c : Char} {digit : Nat} (h : hexValue? c = some digit) : digit < 16 := by
  unfold hexValue? at h
  simp only [Char.le_def, UInt32.le_iff_toNat_le] at h
  split at h
  · obtain rfl := Option.some.inj h
    rename_i hc
    have : c.toNat ≤ 57 := hc.2
    omega
  split at h
  · obtain rfl := Option.some.inj h
    rename_i hc
    have : c.toNat ≤ 102 := hc.2
    omega
  split at h
  · obtain rfl := Option.some.inj h
    rename_i hc
    have : c.toNat ≤ 70 := hc.2
    omega
  · cases h

theorem readHex_lt {count number code : Nat} {cs rest : List Char}
    (h : readHex count number cs = .ok (code, rest)) : code < (number + 1) * 16 ^ count := by
  induction count generalizing number cs with
  | zero =>
    obtain ⟨rfl, rfl⟩ := Prod.mk.inj (Except.ok.inj h)
    simp
  | succ count ih =>
    cases cs with
    | nil => cases h
    | cons c cs =>
      rw [readHex] at h
      split at h
      · rename_i digit hc
        have hlt := hexValue?_lt hc
        have hcode := ih h
        have hle : (number * 16 + digit + 1) * 16 ^ count ≤ ((number + 1) * 16) * 16 ^ count :=
          Nat.mul_le_mul_right _ (by omega)
        rw [Nat.pow_succ, Nat.mul_comm (16 ^ count), ← Nat.mul_assoc]
        exact hcode.trans_le hle
      · cases h

/-- A plus sign and three digits: the character with that code, and what is left. -/
def signedCode? : List Char → Option (Char × List Char)
  | '+' :: digits => (readHex 3 0 digits).toOption.map fun (code, rest) => (Char.ofNat code, rest)
  | _ => none

theorem signedCode?_of_ne {c : Char} (h : c ≠ '+') (cs : List Char) :
    signedCode? (c :: cs) = none := by
  unfold signedCode?
  split
  · rename_i digits hcons
    exact absurd (List.cons.inj hcons).1 h
  · rfl

/-- The code that is read behind the letter: one of the scanner, or one with a sign. -/
def looseCode? (cs : List Char) : Option (Char × List Char) :=
  (readEscape ('u' :: cs)).toOption.or (signedCode? cs)

theorem toOption_readEscape_code (cs : List Char) :
    (readEscape ('u' :: cs)).toOption =
      (readHex 4 0 cs).toOption.bind fun (code, rest) => (charOfCode? code).map (·, rest) := by
  rw [readEscape, if_pos rfl]
  cases readHex 4 0 cs with
  | error failure => rfl
  | ok r =>
    obtain ⟨code, rest⟩ := r
    cases hcode : charOfCode? code <;> simp [hcode, Except.toOption]

/-- A code of three digits is that of a character. -/
theorem charOfCode?_of_lt {code : Nat} (h : code < 16 ^ 3) :
    charOfCode? code = some (Char.ofNat code) := by
  have hvalid : code.isValidChar := .inl (by omega)
  rw [charOfCode?, if_pos hvalid]

/-- Four characters are a code if they are the digits of a number, which a sign may precede. -/
theorem looseCode?_digits (w x y z : Char) (rest : List Char) :
    looseCode? (w :: x :: y :: z :: rest) =
      ((hexNumber? [w, x, y, z]).bind charOfCode?).map (·, rest) := by
  unfold looseCode?
  rw [toOption_readEscape_code]
  by_cases hw : w = '+'
  · -- the scanner does not take the sign for a digit
    subst hw
    have hfour : readHex 4 0 ('+' :: x :: y :: z :: rest) =
        .error ⟨.invalidUnicode, '+' :: x :: y :: z :: rest⟩ := rfl
    have hthree := toOption_readHex [x, y, z] 0 rest
    rw [hfour]
    show (readHex 3 0 (x :: y :: z :: rest)).toOption.map _ = _
    cases hr : readHex 3 0 (x :: y :: z :: rest) with
    | error failure =>
      have hnone : hexNumber? ['+', x, y, z] = none := by
        rw [show readHex [x, y, z].length 0 ([x, y, z] ++ rest) = .error failure from hr] at hthree
        exact (Option.map_eq_none_iff.1 hthree.symm)
      rw [hnone]
      rfl
    | ok r =>
      obtain ⟨code, rest'⟩ := r
      rw [show readHex [x, y, z].length 0 ([x, y, z] ++ rest) = .ok (code, rest') from hr] at hthree
      obtain ⟨code', hcode, hboth⟩ := Option.map_eq_some_iff.1 hthree.symm
      obtain ⟨rfl, rfl⟩ := Prod.mk.inj hboth
      have hnumber : hexNumber? ['+', x, y, z] = some code' := hcode
      rw [hnumber, Option.bind_some, charOfCode?_of_lt (by simpa using readHex_lt hr)]
      rfl
  · have hnumber : hexNumber? [w, x, y, z] =
        [w, x, y, z].foldlM (fun number d => (number * 16 + ·) <$> hexValue? d) 0 := by
      rw [hexNumber?]
      · simpa using hw
      · simp
    have hfour := toOption_readHex [w, x, y, z] 0 rest
    rw [signedCode?_of_ne hw, Option.or_none, hnumber,
      show (readHex 4 0 (w :: x :: y :: z :: rest)).toOption = _ from hfour]
    cases [w, x, y, z].foldlM (fun number d => (number * 16 + ·) <$> hexValue? d) 0 <;> rfl

/-- Fewer characters are none. -/
theorem looseCode?_of_length_lt {cs : List Char} (h : cs.length < 4) : looseCode? cs = none := by
  have hfew {count : Nat} {digits : List Char} (hlt : digits.length < count) :
      (readHex count 0 digits).toOption = none := by
    cases hr : readHex count 0 digits with
    | error failure => rfl
    | ok r =>
      have := readHex_rest_le hr
      omega
  unfold looseCode?
  rw [toOption_readEscape_code, hfew h]
  show signedCode? cs = none
  unfold signedCode?
  split
  · rename_i digits
    rw [hfew (Nat.lt_of_succ_lt_succ h)]
    rfl
  · rfl

/-- A code is resolved if it is read, else the letter stands for itself. -/
theorem unescapeChars_code (cs : List Char) :
    unescapeChars ('\\' :: 'u' :: cs) =
      match looseCode? cs with
      | some (d, rest) => d :: unescapeChars rest
      | none => 'u' :: unescapeChars cs := by
  conv => lhs; unfold unescapeChars
  rw [if_pos rfl, if_pos rfl]
  split
  · rename_i w x y z rest
    rw [looseCode?_digits]
    cases (hexNumber? [w, x, y, z]).bind charOfCode? <;> rfl
  · rename_i hshort
    rw [looseCode?_of_length_lt]
    match cs with
    | [] | [_] | [_, _] | [_, _, _] => simp
    | w :: x :: y :: z :: rest => exact absurd rfl (hshort w x y z rest)

/-! ### In the middle of a source -/

/-- No digit is read beyond a backslash. -/
theorem readHex_append_backslash (count number : Nat) (cs more : List Char) :
    (readHex count number (cs ++ '\\' :: more)).toOption =
      (readHex count number cs).toOption.map fun (code, rest) => (code, rest ++ '\\' :: more) := by
  induction count generalizing number cs with
  | zero => rfl
  | succ count ih =>
    cases cs with
    | nil => rfl
    | cons c cs =>
      rw [List.cons_append, readHex, readHex]
      cases hexValue? c with
      | none => rfl
      | some digit => exact ih _ cs

/-- A code in front of a backslash is the same with the backslash and without it. -/
theorem looseCode?_append_backslash (cs more : List Char) :
    looseCode? (cs ++ '\\' :: more) =
      (looseCode? cs).map fun (d, rest) => (d, rest ++ '\\' :: more) := by
  have hsigned : signedCode? (cs ++ '\\' :: more) =
      (signedCode? cs).map fun (d, rest) => (d, rest ++ '\\' :: more) := by
    cases cs with
    | nil => rfl
    | cons c cs =>
      by_cases hc : c = '+'
      · subst hc
        show (readHex 3 0 (cs ++ '\\' :: more)).toOption.map _ =
          ((readHex 3 0 cs).toOption.map _).map _
        rw [readHex_append_backslash, Option.map_map, Option.map_map]
        rfl
      · rw [List.cons_append, signedCode?_of_ne hc, signedCode?_of_ne hc]
        rfl
  unfold looseCode?
  rw [hsigned, toOption_readEscape_code, toOption_readEscape_code, readHex_append_backslash]
  cases (readHex 4 0 cs).toOption with
  | none => rfl
  | some r =>
    obtain ⟨code, rest⟩ := r
    simp only [Option.map_some, Option.bind_some]
    cases charOfCode? code <;> rfl

/-- The characters end with a backslash that belongs to what comes next. The flag tells that one
    stands in front of them. -/
def endsEscaping : (escaping : Bool) → List Char → Bool
  | escaping, [] => escaping
  | escaping, c :: cs => endsEscaping (c == '\\' && !escaping) cs

/-- Behind characters without backslashes nothing is left open. -/
theorem endsEscaping_append {written : List Char} (h : '\\' ∉ written) (rest : List Char) :
    endsEscaping false (written ++ rest) = endsEscaping false rest := by
  induction written with
  | nil => rfl
  | cons c written ih =>
    rw [List.mem_cons, not_or] at h
    rw [List.cons_append, endsEscaping, beq_false_of_ne (Ne.symm h.1), Bool.false_and, ih h.2]

theorem backslash_not_mem_digits {digits : List Char} (h : ∀ c ∈ digits, (hexValue? c).isSome) :
    '\\' ∉ digits := by
  intro hmem
  cases h _ hmem

/-- A code is written without backslashes. -/
theorem exists_written_of_looseCode? {cs rest : List Char} {d : Char}
    (h : looseCode? cs = some (d, rest)) : ∃ written, cs = written ++ rest ∧ '\\' ∉ written := by
  rcases Option.or_eq_some_iff.1 h with hr | ⟨-, hs⟩
  · cases hread : readEscape ('u' :: cs) with
    | error failure =>
      rw [hread] at hr
      cases hr
    | ok r =>
      rw [hread] at hr
      obtain rfl := Option.some.inj hr
      rcases readEscape_cases hread with ⟨hcons, hd⟩ | ⟨digits, hcons, hdigits, -⟩
      · exact absurd (List.cons.inj hcons).1.symm hd
      · exact ⟨digits, (List.cons.inj hcons).2, backslash_not_mem_digits hdigits⟩
  · unfold signedCode? at hs
    split at hs
    · rename_i digits
      cases hread : readHex 3 0 digits with
      | error failure =>
        rw [hread] at hs
        cases hs
      | ok r =>
        rw [hread] at hs
        obtain ⟨-, rfl⟩ := Prod.mk.inj (Option.some.inj hs)
        obtain ⟨written, rfl, hdigits, -⟩ := exists_digits_of_readHex hread
        refine ⟨'+' :: written, rfl, ?_⟩
        rw [List.mem_cons, not_or]
        exact ⟨by decide, backslash_not_mem_digits hdigits⟩
    · cases hs

/-- A backslash yields one character, and resolving goes on at some place behind it, which is the
    same place if another backslash comes later. -/
theorem exists_resolved (d : Char) (cs : List Char) :
    ∃ e rest, rest.length ≤ cs.length ∧
      endsEscaping false ('\\' :: d :: cs) = endsEscaping false rest ∧
      unescapeChars ('\\' :: d :: cs) = e :: unescapeChars rest ∧
      ∀ more, unescapeChars ('\\' :: d :: (cs ++ '\\' :: more)) =
        e :: unescapeChars (rest ++ '\\' :: more) := by
  have hends : endsEscaping false ('\\' :: d :: cs) = endsEscaping false cs := by
    rw [endsEscaping, endsEscaping, beq_self_eq_true, Bool.not_false, Bool.and_true, Bool.not_true,
      Bool.and_false]
  by_cases hd : d = 'u'
  · subst hd
    cases hcode : looseCode? cs with
    | none =>
      refine ⟨'u', cs, Nat.le_refl _, hends, ?_, fun more => ?_⟩
      · rw [unescapeChars_code, hcode]
      · rw [unescapeChars_code, looseCode?_append_backslash, hcode]
        rfl
    | some r =>
      obtain ⟨e, rest⟩ := r
      obtain ⟨written, rfl, hwritten⟩ := exists_written_of_looseCode? hcode
      refine ⟨e, rest, by simp, hends.trans (endsEscaping_append hwritten rest), ?_, fun more => ?_⟩
      · rw [unescapeChars_code, hcode]
      · rw [unescapeChars_code, looseCode?_append_backslash, hcode]
        rfl
  · exact ⟨d, cs, Nat.le_refl _, hends, unescapeChars_escaped hd cs,
      fun more => unescapeChars_escaped hd _⟩

/-- What stands in front of a backslash is resolved on its own, unless it ends with a backslash that
    the next one belongs to. -/
theorem unescapeChars_append_backslash {front : List Char} (h : endsEscaping false front = false)
    (more : List Char) :
    unescapeChars (front ++ '\\' :: more) =
      unescapeChars front ++ unescapeChars ('\\' :: more) := by
  -- a code takes several characters at once, so the induction is on the length
  induction hlen : front.length using Nat.strong_induction_on generalizing front with
  | _ n ih =>
    subst hlen
    match front with
    | [] => rfl
    | c :: cs =>
      by_cases hc : c = '\\'
      · subst hc
        match cs with
        | [] => cases h
        | d :: cs =>
          obtain ⟨e, rest, hle, hends, halone, hmore⟩ := exists_resolved d cs
          have hlt : rest.length < ('\\' :: d :: cs).length := by
            simp only [List.length_cons]
            omega
          rw [List.cons_append, List.cons_append, hmore, halone,
            ih rest.length hlt (hends ▸ h) rfl, List.cons_append]
      · have hcs : endsEscaping false cs = false := by
          rw [endsEscaping, beq_false_of_ne hc] at h
          exact h
        rw [List.cons_append, unescapeChars_cons hc, unescapeChars_cons hc,
          ih cs.length (Nat.lt_succ_self _) hcs rfl, List.cons_append]

/-- Up to the next backslash everything stands for itself. -/
theorem unescapeChars_eq_takeWhile (cs : List Char) :
    unescapeChars cs =
      cs.takeWhile (· ≠ '\\') ++ unescapeChars (cs.dropWhile (· ≠ '\\')) := by
  induction cs with
  | nil => rfl
  | cons c cs ih =>
    by_cases hc : c = '\\'
    · subst hc
      rfl
    · rw [List.takeWhile_cons_of_pos (by simpa using hc),
        List.dropWhile_cons_of_pos (by simpa using hc), unescapeChars_cons hc, ih]
      rfl

/-- A source that is resolved leaves nothing open. -/
theorem WellEscaped.endsEscaping_eq {cs : List Char} (h : WellEscaped cs) :
    endsEscaping false cs = false := by
  induction h with
  | nil => rfl
  | plain hc _ _ ih =>
    rw [endsEscaping, beq_false_of_ne hc]
    exact ih
  | @escape cs rest d hr _ ih =>
    rcases readEscape_cases hr with ⟨rfl, -⟩ | ⟨digits, rfl, hdigits, -⟩
    · rw [endsEscaping, endsEscaping, beq_self_eq_true, Bool.not_false, Bool.and_true,
        Bool.not_true, Bool.and_false, ih]
    · have hwritten := backslash_not_mem_digits hdigits
      show endsEscaping false (digits ++ rest) = false
      rw [endsEscaping_append hwritten, ih]

/-- A source that is not resolved has a sequence that the scanner refuses, behind a part that is
    resolved. -/
theorem exists_refused_of_resolveChars {cs : List Char} {failure : EscapeFailure}
    (h : resolveChars cs = .error failure) :
    ∃ front rest, cs = front ++ '\\' :: rest ∧ WellEscaped front ∧
      readEscape rest = .error failure := by
  induction cs using resolveChars.induct with
  | case1 =>
    rw [resolveChars] at h
    cases h
  | case2 cs failure' hf =>
    rw [resolveChars_of_readEscape_error hf] at h
    obtain rfl := Except.error.inj h
    exact ⟨[], cs, rfl, .nil, hf⟩
  | case3 cs d rest hr ih =>
    rw [resolveChars_of_readEscape hr] at h
    obtain ⟨front, refused, rfl, hfront, hrefused⟩ := ih (eq_error_of_map_eq_error h)
    rcases readEscape_cases hr with ⟨rfl, hd⟩ | ⟨digits, rfl, -, hread⟩
    · exact ⟨'\\' :: d :: front, refused, rfl, .escape (readEscape_of_ne hd front) hfront, hrefused⟩
    · exact ⟨'\\' :: 'u' :: (digits ++ front), refused, by simp, .escape (hread front) hfront,
        hrefused⟩
  | case4 c cs hc ih =>
    rw [resolveChars_plain hc] at h
    obtain ⟨front, refused, rfl, hfront, hrefused⟩ := ih (eq_error_of_map_eq_error h)
    exact ⟨c :: front, refused, rfl, .plain hc trivial hfront, hrefused⟩

/-! ### Both ways -/

/-- A source whose sequences the scanner reads is resolved to the same text by `unescape`, and the
    sources of quoted texts are such. Any other source has a sequence that the scanner refuses, at a
    backslash that no other one belongs to. Where it refuses a code, `unescape` keeps the letter and
    what follows up to the next backslash, unless a plus sign and three digits follow. -/
theorem unescape_of_resolve (source : String) :
    (∀ text, resolve source = .ok text → unescape source = text) ∧
    (∀ template tokens, tokenize template = .ok tokens → ∀ token ∈ tokens,
      token.kind = .quotedText source → resolve source = .ok token.text) ∧
    (∀ failure, resolve source = .error failure →
      ∃ front rest, source.toList = front ++ '\\' :: rest ∧ endsEscaping false front = false ∧
        readEscape rest = .error failure) ∧
    ∀ front cs failure, source.toList = front ++ '\\' :: 'u' :: cs →
      endsEscaping false front = false → readEscape ('u' :: cs) = .error failure →
      (∀ d rest, signedCode? cs = some (d, rest) →
        (unescape source).toList = unescapeChars front ++ d :: unescapeChars rest) ∧
      (signedCode? cs = none →
        (unescape source).toList = unescapeChars front ++
          'u' :: (cs.takeWhile (· ≠ '\\') ++ unescapeChars (cs.dropWhile (· ≠ '\\')))) := by
  refine ⟨?_, ?_, ?_, ?_⟩
  · intro text h
    obtain ⟨cs, hcs, rfl⟩ := exists_of_map_eq_ok h
    rw [unescape, (wellEscaped_of_resolveChars hcs).2]
  · intro template tokens h token ht hkind
    exact resolve_of_tokenize h ht hkind
  · intro failure h
    obtain ⟨front, rest, hsource, hfront, hrefused⟩ :=
      exists_refused_of_resolveChars (eq_error_of_map_eq_error h)
    exact ⟨front, rest, hsource, hfront.endsEscaping_eq, hrefused⟩
  · intro front cs failure hsource hfront hrefused
    have hcode : looseCode? cs = signedCode? cs := by
      rw [looseCode?, hrefused]
      rfl
    rw [unescape, String.toList_ofList, hsource, unescapeChars_append_backslash hfront,
      unescapeChars_code, hcode]
    constructor
    · intro d rest hsigned
      rw [hsigned]
    · intro hnone
      rw [hnone, ← unescapeChars_eq_takeWhile]

/-- The tokens of a letter between quotes. -/
def quotedLetter : List Token :=
  [⟨.placeholderStart, 0, 2, "%\x7b"⟩, ⟨.quoteStart .single, 2, 3, "'"⟩,
    ⟨.quotedText "a", 3, 4, "a"⟩, ⟨.quoteEnd .single, 4, 5, "'"⟩,
    ⟨.placeholderEnd, 5, 6, "\x7d"⟩, ⟨.eof, 6, 6, ""⟩]

theorem tokenize_quotedLetter : tokenize "%\x7b'a'\x7d" = .ok quotedLetter := by
  have hletter : Enclosable .single ['a'] :=
    Escaped.of_not_mem (List.forall_mem_singleton.2 (by decide)) (by decide)
  have hscan : scanQuoted .single ['\'', 'a', '\'', '\x7d'] ['a', '\'', '\x7d'] = _ :=
    scanQuoted_of_enclosable hletter _ ['\x7d']
  have hstep : scanStep 6 (.placeholder 0 0) ['\'', 'a', '\'', '\x7d'] =
      .ok (some ⟨[⟨.quoteStart .single, 2, 3, "'"⟩, ⟨.quotedText "a", 3, 4, "a"⟩,
        ⟨.quoteEnd .single, 4, 5, "'"⟩], .placeholder 0 0, ['\x7d']⟩) := by
    show (((scanQuoted .single ['\'', 'a', '\'', '\x7d'] ['a', '\'', '\x7d']).map _).map _).map
      some = _
    rw [hscan]
    rfl
  show scanTokens 6 .text ['%', '\x7b', '\'', 'a', '\'', '\x7d'] = _
  refine scanTokens_of_step ⟨[_], .placeholder 0 0, ['\'', 'a', '\'', '\x7d']⟩ rfl ?_
  refine scanTokens_of_step ⟨[_, _, _], _, ['\x7d']⟩ hstep ?_
  exact scanTokens_of_step ⟨[_], .text, []⟩ rfl (scanTokens_of_end rfl)

/-- A code that is resolved, a letter between quotes, and a code of one digit with an escaped
    apostrophe behind it. -/
theorem unescape_of_resolve_codes :
    (resolve "\\u0041" = .ok "A" ∧ unescape "\\u0041" = "A") ∧
    (∃ tokens, tokenize "%\x7b'a'\x7d" = .ok tokens ∧
      ⟨.quotedText "a", 3, 4, "a"⟩ ∈ tokens ∧ resolve "a" = .ok "a") ∧
    (unescape "x\\u1\\'").toList = unescapeChars ['x'] ++ 'u' :: (['1'] ++ ['\'']) := by
  refine ⟨?_, ?_, ?_⟩
  · have hcode : resolve "\\u0041" = .ok "A" := by
      show (resolveChars ['\\', 'u', '0', '0', '4', '1']).map String.ofList = _
      rw [resolveChars_of_readEscape (show readEscape _ = .ok ('A', []) from rfl), resolveChars]
      rfl
    exact ⟨hcode, (unescape_of_resolve _).1 _ hcode⟩
  · have hmem : ⟨.quotedText "a", 3, 4, "a"⟩ ∈ quotedLetter := by simp [quotedLetter]
    have hresolved := (unescape_of_resolve "a").2.1 _ _ tokenize_quotedLetter _ hmem rfl
    exact ⟨quotedLetter, tokenize_quotedLetter, hmem, hresolved⟩
  · obtain ⟨-, -, -, hkept⟩ := unescape_of_resolve "x\\u1\\'"
    exact (hkept ['x'] ['1', '\\', '\''] _ rfl rfl rfl).2 rfl

/-- A plus sign and three digits are refused by the scanner and resolved by `unescape`. -/
theorem unescape_signedDigits :
    (∃ failure, readEscape ['u', '+', '0', '4', '1'] = .error failure) ∧
      unescape "\\u+041" = "A" ∧ unescape "\\u+041" ≠ "u+041" := by
  have hdecoded : unescape "\\u+041" = "A" := by decide
  exact ⟨⟨_, rfl⟩, hdecoded, by rw [hdecoded]; decide⟩

end Phrasebook
