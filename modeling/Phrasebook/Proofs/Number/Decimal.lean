import Phrasebook.Selection

/-! # Numbers in decimal notation

    Texts are read as numbers if they are in decimal notation: digits with at most one mark among
    them, behind an optional sign. The mark is that of the locale. A text is read with points in the
    place of marks, and points that it has itself are not told from these; so a point is a mark in
    every locale.

    * `isSome_readDecimal?_iff`: of the texts of digits and points, those with a digit and without a
      second point are read;
    * `decimalNotation_map_iff`: with points in the place of marks, a text is in decimal notation if
      it was so before, with the mark or with a point;
    * `readLocalized_isSome_iff`: both together. -/

namespace Phrasebook

/-! ### Digits -/

theorem toNat_of_isDigit {c : Char} (h : isDigit c = true) : 48 ≤ c.toNat ∧ c.toNat ≤ 57 := by
  simpa [isDigit, Char.le_def, UInt32.le_iff_toNat_le] using h

theorem isWhitespace_of_isDigit {c : Char} (h : isDigit c = true) : isWhitespace c = false := by
  have hle := toNat_of_isDigit h
  have hspace : c ≠ ' ' := by
    rintro rfl
    simp at hle
  rw [isWhitespace, if_pos (by omega)]
  simp [hspace]
  omega

theorem ne_of_isDigit {c d : Char} (h : isDigit c = true) (hd : isDigit d = false) : c ≠ d := by
  rintro rfl
  rw [h] at hd
  cases hd

/-- Digits have no case. -/
theorem toLower_of_isDigit {c : Char} (h : isDigit c = true) : c.toLower = c := by
  have hle := toNat_of_isDigit h
  rw [← Char.ofNat_toNat c]
  generalize c.toNat = n at hle ⊢
  obtain ⟨d, hd, rfl⟩ : ∃ d, d < 10 ∧ n = 48 + d := ⟨n - 48, by omega, by omega⟩
  revert d
  decide

theorem intChars_eq (n : Int) :
    intChars n = (if n < 0 then ['-'] else []) ++ decimalDigits n.natAbs := by
  unfold intChars
  split <;> rfl

theorem isWhitespace_of_mem_intChars {n : Int} {c : Char} (h : c ∈ intChars n) :
    isWhitespace c = false := by
  rw [intChars_eq, List.mem_append] at h
  rcases h with h | h
  · split at h
    · rw [List.mem_singleton.1 h]
      rfl
    · cases h
  · exact isWhitespace_of_isDigit (isDigit_of_mem_decimalDigits h)

/-! ### Notations -/

/-- Digits with at most one mark among them, and at least one digit. -/
structure IsDecimal (mark : Char) (cs : List Char) : Prop where
  /-- There are digits and marks only. -/
  plain : ∀ c ∈ cs, isDigit c = true ∨ c = mark
  /-- The mark stands once at most. -/
  count_le : cs.count mark ≤ 1
  /-- There is a digit. -/
  digit : ∃ c ∈ cs, isDigit c = true

/-- What may stand in front of a number. -/
def signs : List (List Char) := [[], ['+'], ['-']]

/-- A text is an optional sign and a decimal number with the mark between whole and fraction. -/
def DecimalNotation (mark : Char) (cs : List Char) : Prop :=
  ∃ sign ∈ signs, ∃ body, cs = sign ++ body ∧ IsDecimal mark body

/-! ### Reading -/

section Reading

variable {cs whole fraction rest : List Char}

theorem span_digits (hwhole : ∀ c ∈ whole, isDigit c = true) (rest : List Char)
    (hrest : ∀ c ∈ rest.head?, isDigit c = false) :
    (whole ++ rest).takeWhile isDigit = whole ∧ (whole ++ rest).dropWhile isDigit = rest := by
  have hstop : rest.takeWhile isDigit = [] ∧ rest.dropWhile isDigit = rest := by
    cases rest with
    | nil => exact ⟨rfl, rfl⟩
    | cons c rest =>
      have hc : ¬ isDigit c = true := by simp [hrest c rfl]
      exact ⟨List.takeWhile_cons_of_neg hc, List.dropWhile_cons_of_neg hc⟩
  rw [List.takeWhile_append_of_pos hwhole, List.dropWhile_append_of_pos hwhole, hstop.1, hstop.2,
    List.append_nil]
  exact ⟨rfl, rfl⟩

theorem readDecimal?_digits (hwhole : ∀ c ∈ whole, isDigit c = true) (hne : whole ≠ []) :
    readDecimal? whole = some ⟨whole, 0⟩ := by
  obtain ⟨htake, hdrop⟩ := span_digits hwhole [] (by simp)
  rw [List.append_nil] at htake hdrop
  unfold readDecimal?
  rw [htake, hdrop]
  simp [hne]

theorem readDecimal?_point (hwhole : ∀ c ∈ whole, isDigit c = true)
    (hfraction : ∀ c ∈ fraction, isDigit c = true) :
    readDecimal? (whole ++ '.' :: fraction) =
      if whole = [] ∧ fraction = [] then none
      else some ⟨whole ++ fraction, -(fraction.length : Int)⟩ := by
  obtain ⟨htake, hdrop⟩ := span_digits hwhole ('.' :: fraction) (by simp; rfl)
  obtain ⟨htake', hdrop'⟩ := span_digits hfraction [] (by simp)
  rw [List.append_nil] at htake' hdrop'
  unfold readDecimal?
  rw [htake, hdrop]
  simp [htake', hdrop']

theorem readDecimal?_points (hwhole : ∀ c ∈ whole, isDigit c = true)
    (hfraction : ∀ c ∈ fraction, isDigit c = true) :
    readDecimal? (whole ++ '.' :: (fraction ++ '.' :: rest)) = none := by
  obtain ⟨htake, hdrop⟩ :=
    span_digits hwhole ('.' :: (fraction ++ '.' :: rest)) (by simp; rfl)
  obtain ⟨htake', hdrop'⟩ := span_digits hfraction ('.' :: rest) (by simp; rfl)
  unfold readDecimal?
  rw [htake, hdrop]
  simp [htake', hdrop']

/-- Digits and points are digits up to the first point, and digits from there to the next one. -/
theorem cases_of_plain (h : ∀ c ∈ cs, isDigit c = true ∨ c = '.') :
    (∀ c ∈ cs, isDigit c = true) ∨
      ∃ whole rest, cs = whole ++ '.' :: rest ∧ ∀ c ∈ whole, isDigit c = true := by
  by_cases hp : '.' ∈ cs
  · obtain ⟨whole, rest, rfl, hnot⟩ := List.eq_append_cons_of_mem hp
    refine .inr ⟨whole, rest, rfl, fun c hc => ?_⟩
    rcases h c (List.mem_append_left _ hc) with hd | rfl
    · exact hd
    · exact absurd hc hnot
  · refine .inl fun c hc => ?_
    rcases h c hc with hd | rfl
    · exact hd
    · exact absurd hc hp

theorem count_point_of_digits (h : ∀ c ∈ cs, isDigit c = true) : cs.count '.' = 0 :=
  List.count_eq_zero.2 fun hp => ne_of_isDigit (h _ hp) rfl rfl

/-- Digits and points are read as a number if there is a digit and no second point. -/
theorem isSome_readDecimal?_iff (h : ∀ c ∈ cs, isDigit c = true ∨ c = '.') :
    (readDecimal? cs).isSome = true ↔ IsDecimal '.' cs := by
  rcases cases_of_plain h with hdigits | ⟨whole, rest, rfl, hwhole⟩
  · cases cs with
    | nil =>
      refine iff_of_false (by decide) fun hd => ?_
      obtain ⟨c, hc, -⟩ := hd.digit
      cases hc
    | cons c cs =>
      rw [readDecimal?_digits hdigits (List.cons_ne_nil c cs)]
      refine iff_of_true rfl ⟨h, ?_, c, List.mem_cons_self, hdigits c List.mem_cons_self⟩
      rw [count_point_of_digits hdigits]
      exact Nat.zero_le 1
  · have hrest : ∀ c ∈ rest, isDigit c = true ∨ c = '.' := fun c hc => h c (by simp [hc])
    rcases cases_of_plain hrest with hfraction | ⟨fraction, rest, rfl, hfraction⟩
    · rw [readDecimal?_point hwhole hfraction]
      split
      · rename_i hempty
        obtain ⟨rfl, rfl⟩ := hempty
        refine iff_of_false (by decide) fun hd => ?_
        obtain ⟨c, hc, hdigit⟩ := hd.digit
        obtain rfl := List.mem_singleton.1 hc
        cases hdigit
      · rename_i hne
        refine iff_of_true rfl ⟨h, ?_, ?_⟩
        · simp [count_point_of_digits hwhole, count_point_of_digits hfraction]
        · obtain ⟨c, hc⟩ := List.exists_mem_of_ne_nil _ (mt List.append_eq_nil_iff.1 hne)
          rcases List.mem_append.1 hc with hc | hc
          · exact ⟨c, List.mem_append_left _ hc, hwhole c hc⟩
          · exact ⟨c, by simp [hc], hfraction c hc⟩
    · rw [readDecimal?_points hwhole hfraction]
      refine iff_of_false Bool.false_ne_true fun hd => ?_
      have hcount := hd.count_le
      simp at hcount
      omega

/-- Digits and points spell no word. -/
theorem readUnsigned?_of_plain (h : ∀ c ∈ cs, isDigit c = true ∨ c = '.') (f : FloatFormat)
    (negative : Bool) :
    f.readUnsigned? negative cs = (readDecimal? cs).map (f.ofDecimal negative) := by
  have hlower : cs.map Char.toLower = cs := by
    refine (List.map_congr_left fun c hc => ?_).trans (List.map_id cs)
    rcases h c hc with hd | rfl
    · exact toLower_of_isDigit hd
    · rfl
  have hword (word : String) (hn : 'n' ∈ word.toList.map Char.toLower) :
      eqIgnoringAsciiCase (String.ofList cs) word = false := by
    rw [eqIgnoringAsciiCase, String.toList_ofList, hlower, beq_eq_false_iff_ne]
    rintro rfl
    rcases h 'n' hn with hd | hd <;> cases hd
  unfold FloatFormat.readUnsigned?
  simp only [hword "inf" (by decide), hword "infinity" (by decide),
    hword "nan" (by decide), Bool.false_or, Bool.false_eq_true, if_false]

/-- A sign in front of digits and points is the sign of what they say. -/
theorem read?_append {sign : List Char} (hsign : sign ∈ signs)
    (h : ∀ c ∈ cs, isDigit c = true ∨ c = '.') (f : FloatFormat) :
    f.read? (sign ++ cs) = (readDecimal? cs).map (f.ofDecimal (sign == ['-'])) := by
  simp only [signs, List.mem_cons, List.not_mem_nil, or_false] at hsign
  rcases hsign with rfl | rfl | rfl
  · rw [List.nil_append, ← readUnsigned?_of_plain h]
    unfold FloatFormat.read?
    split
    · rcases h '+' List.mem_cons_self with hd | hd <;> cases hd
    · rcases h '-' List.mem_cons_self with hd | hd <;> cases hd
    · rfl
  · rw [← readUnsigned?_of_plain h]
    rfl
  · rw [← readUnsigned?_of_plain h]
    rfl

/-- Behind an optional sign stand digits and points only. -/
def looksDecimal : List Char → Bool
  | c :: rest =>
    ((isDigit c || c == '.') || c == '-' || c == '+') && rest.all fun c => isDigit c || c == '.'
  | [] => true

theorem looksDecimal_iff : looksDecimal cs = true ↔
    ∃ sign ∈ signs, ∃ body, cs = sign ++ body ∧ ∀ c ∈ body, isDigit c = true ∨ c = '.' := by
  constructor
  · intro h
    cases cs with
    | nil => exact ⟨[], by simp [signs], [], rfl, by simp⟩
    | cons c rest =>
      simp only [looksDecimal, Bool.and_eq_true, Bool.or_eq_true, beq_iff_eq,
        List.all_eq_true] at h
      obtain ⟨(hc | rfl) | rfl, hrest⟩ := h
      · exact ⟨[], by simp [signs], c :: rest, rfl, List.forall_mem_cons.2 ⟨hc, hrest⟩⟩
      · exact ⟨['-'], by simp [signs], rest, rfl, hrest⟩
      · exact ⟨['+'], by simp [signs], rest, rfl, hrest⟩
  · rintro ⟨sign, hsign, body, rfl, h⟩
    have hall : (body.all fun c => isDigit c || c == '.') = true := by simpa using h
    simp only [signs, List.mem_cons, List.not_mem_nil, or_false] at hsign
    rcases hsign with rfl | rfl | rfl
    · cases body with
      | nil => rfl
      | cons c body =>
        rw [List.all_cons, Bool.and_eq_true] at hall
        simp [looksDecimal, hall.1, hall.2]
    · exact hall
    · exact hall

end Reading

/-! ### Marks of locales -/

section Marks

variable {mark : Char} {cs : List Char}

/-- The character with which a number is read: the mark becomes a point. -/
def pointFor (mark c : Char) : Char := if c = mark then '.' else c

theorem isDigit_pointFor (hmark : isDigit mark = false) (c : Char) :
    isDigit (pointFor mark c) = isDigit c := by
  unfold pointFor
  split
  · rename_i h
    rw [h, hmark]
    rfl
  · rfl

theorem count_map_pointFor (hne : mark ≠ '.') (cs : List Char) :
    (cs.map (pointFor mark)).count '.' = cs.count mark + cs.count '.' := by
  induction cs with
  | nil => rfl
  | cons c cs ih =>
    rw [List.map_cons, List.count_cons, List.count_cons, List.count_cons, ih]
    unfold pointFor
    grind

theorem plain_pointFor_iff {c : Char} (hmark : isDigit mark = false) :
    isDigit (pointFor mark c) = true ∨ pointFor mark c = '.' ↔
      isDigit c = true ∨ c = mark ∨ c = '.' := by
  rw [isDigit_pointFor hmark]
  unfold pointFor
  split <;> simp [*]

theorem IsDecimal.count_eq_zero (h : IsDecimal mark cs) {other : Char}
    (hdigit : isDigit other = false) (hne : other ≠ mark) : cs.count other = 0 := by
  refine List.count_eq_zero.2 fun hmem => ?_
  rcases h.plain other hmem with hd | rfl
  · exact ne_of_isDigit hd hdigit rfl
  · exact hne rfl

/-- A number is read with marks and with points, but not with both. -/
theorem isDecimal_map_iff (hdigit : isDigit mark = false) (hne : mark ≠ '.') :
    IsDecimal '.' (cs.map (pointFor mark)) ↔ IsDecimal mark cs ∨ IsDecimal '.' cs := by
  constructor
  · intro h
    have hplain : ∀ c ∈ cs, isDigit c = true ∨ c = mark ∨ c = '.' := fun c hc =>
      (plain_pointFor_iff hdigit).1 (h.plain _ (List.mem_map_of_mem hc))
    have hcount := h.count_le
    rw [count_map_pointFor hne] at hcount
    have hany : ∃ c ∈ cs, isDigit c = true := by
      obtain ⟨_, hmem, hd⟩ := h.digit
      obtain ⟨c, hc, rfl⟩ := List.mem_map.1 hmem
      exact ⟨c, hc, (isDigit_pointFor hdigit c).symm.trans hd⟩
    by_cases hp : '.' ∈ cs
    · -- the point leaves no room for a mark
      have := List.count_pos_iff.2 hp
      have hnot : mark ∉ cs := List.count_eq_zero.1 (by omega)
      refine .inr ⟨fun c hc => (hplain c hc).imp_right fun hc' => ?_, by omega, hany⟩
      exact hc'.resolve_left fun heq => hnot (heq ▸ hc)
    · refine .inl ⟨fun c hc => (hplain c hc).imp_right fun hc' => ?_, by omega, hany⟩
      exact hc'.resolve_right fun heq => hp (heq ▸ hc)
  · intro h
    have hcount : cs.count mark + cs.count '.' ≤ 1 := by
      rcases h with h | h
      · rw [h.count_eq_zero rfl hne.symm]
        exact h.count_le
      · rw [h.count_eq_zero hdigit hne, Nat.zero_add]
        exact h.count_le
    have hplain : ∀ c ∈ cs, isDigit c = true ∨ c = mark ∨ c = '.' := by
      intro c hc
      rcases h with h | h
      · exact (h.plain c hc).imp_right .inl
      · exact (h.plain c hc).imp_right .inr
    obtain ⟨c, hc, hd⟩ := h.elim IsDecimal.digit IsDecimal.digit
    refine ⟨?_, ?_, pointFor mark c, List.mem_map_of_mem hc, (isDigit_pointFor hdigit c).trans hd⟩
    · intro d hd
      obtain ⟨c, hc, rfl⟩ := List.mem_map.1 hd
      exact (plain_pointFor_iff hdigit).2 (hplain c hc)
    · rw [count_map_pointFor hne]
      exact hcount

/-- Signs are no marks, and no mark is read as a sign. -/
theorem map_pointFor_eq_iff {sign : List Char} (hsign : sign ∈ signs) (hmark : [mark] ∉ signs) :
    cs.map (pointFor mark) = sign ↔ cs = sign := by
  have hchar {c d : Char} (hd : [d] ∈ signs) : pointFor mark c = d ↔ c = d := by
    have hpoint : d ≠ '.' := by
      rintro rfl
      exact absurd hd (by decide)
    have hne : mark ≠ d := by
      rintro rfl
      exact hmark hd
    unfold pointFor
    split
    · rename_i h
      rw [h]
      exact iff_of_false hpoint.symm hne
    · exact Iff.rfl
  cases sign with
  | nil => exact List.map_eq_nil_iff
  | cons d rest =>
    obtain rfl : rest = [] := by
      simp only [signs, List.mem_cons, List.not_mem_nil, or_false] at hsign
      rcases hsign with h | h | h <;> cases h <;> rfl
    rw [List.map_eq_singleton_iff]
    simp [hchar hsign]

theorem decimalNotation_map_iff (hdigit : isDigit mark = false) (hsign : [mark] ∉ signs) :
    DecimalNotation '.' (cs.map (pointFor mark)) ↔
      DecimalNotation mark cs ∨ DecimalNotation '.' cs := by
  by_cases hpoint : mark = '.'
  · subst hpoint
    have hmap : cs.map (pointFor '.') = cs :=
      (List.map_congr_left fun c _ => by unfold pointFor; split <;> simp [*]).trans (List.map_id cs)
    rw [hmap, or_self]
  constructor
  · rintro ⟨sign, hs, body, hcs, hd⟩
    obtain ⟨front, back, rfl, hfront, rfl⟩ := List.map_eq_append_iff.1 hcs
    obtain rfl := (map_pointFor_eq_iff hs hsign).1 hfront
    exact ((isDecimal_map_iff hdigit hpoint).1 hd).imp (fun h => ⟨front, hs, back, rfl, h⟩)
      fun h => ⟨front, hs, back, rfl, h⟩
  · intro h
    obtain ⟨sign, hs, body, rfl, hd⟩ : ∃ sign ∈ signs, ∃ body, cs = sign ++ body ∧
        (IsDecimal mark body ∨ IsDecimal '.' body) := by
      rcases h with ⟨sign, hs, body, hcs, hd⟩ | ⟨sign, hs, body, hcs, hd⟩
      · exact ⟨sign, hs, body, hcs, .inl hd⟩
      · exact ⟨sign, hs, body, hcs, .inr hd⟩
    refine ⟨sign, hs, body.map (pointFor mark), ?_, (isDecimal_map_iff hdigit hpoint).2 hd⟩
    rw [List.map_append, (map_pointFor_eq_iff hs hsign).2 rfl]

theorem readLocalized?_eq (locale : Locale) (text : String) :
    readLocalized? locale text =
      if text.toList.any isDigit &&
          looksDecimal (text.toList.map (pointFor locale.decimalSeparator)) then
        FloatFormat.binary64.read? (text.toList.map (pointFor locale.decimalSeparator))
      else none := rfl

theorem any_isDigit_map_pointFor (hmark : isDigit mark = false) (cs : List Char) :
    (cs.map (pointFor mark)).any isDigit = cs.any isDigit := by
  rw [List.any_map, show isDigit ∘ pointFor mark = isDigit from funext (isDigit_pointFor hmark)]

theorem isSome_readLocalized?_iff (locale : Locale) (text : String)
    (hmark : isDigit locale.decimalSeparator = false) :
    (readLocalized? locale text).isSome = true ↔
      DecimalNotation '.' (text.toList.map (pointFor locale.decimalSeparator)) := by
  rw [readLocalized?_eq, ← any_isDigit_map_pointFor hmark]
  generalize text.toList.map (pointFor locale.decimalSeparator) = cs
  constructor
  · intro h
    split at h
    · rename_i hc
      rw [Bool.and_eq_true, looksDecimal_iff] at hc
      obtain ⟨sign, hs, body, rfl, hplain⟩ := hc.2
      rw [read?_append hs hplain, Option.isSome_map] at h
      exact ⟨sign, hs, body, rfl, (isSome_readDecimal?_iff hplain).1 h⟩
    · cases h
  · rintro ⟨sign, hs, body, rfl, hd⟩
    obtain ⟨c, hc, hdc⟩ := hd.digit
    rw [if_pos, read?_append hs hd.plain, Option.isSome_map]
    · exact (isSome_readDecimal?_iff hd.plain).2 hd
    · rw [Bool.and_eq_true, looksDecimal_iff]
      exact ⟨List.any_eq_true.2 ⟨c, List.mem_append_right _ hc, hdc⟩,
        sign, hs, body, rfl, hd.plain⟩

/-- No locale takes a digit or a sign for its mark. -/
theorem Locale.decimalSeparator_mark (locale : Locale) :
    isDigit locale.decimalSeparator = false ∧ [locale.decimalSeparator] ∉ signs := by
  unfold decimalSeparator
  split <;> decide

/-- What is read as a number is in decimal notation with the mark of the locale or with a point, and
    all that is so is read. -/
theorem readLocalized_isSome_iff (locale : Locale) (text : String) :
    (readLocalized? locale text).isSome = true ↔
      DecimalNotation locale.decimalSeparator text.toList ∨ DecimalNotation '.' text.toList := by
  obtain ⟨hdigit, hsign⟩ := locale.decimalSeparator_mark
  rw [isSome_readLocalized?_iff locale text hdigit, decimalNotation_map_iff hdigit hsign]

/-- In German a point does not stand between whole and fraction, but it is read as if it did. -/
theorem readLocalized_foreignPoint :
    let german : Locale := ⟨"de", none⟩
    (readLocalized? german "1.5").isSome = true ∧
      ¬ DecimalNotation german.decimalSeparator "1.5".toList := by
  intro german
  refine ⟨by decide +kernel, ?_⟩
  rintro ⟨sign, hs, body, htext, hd⟩
  have hsigns : ∀ sign ∈ signs, '.' ∉ sign := by decide
  have hpoint : '.' ∈ sign ++ body := htext ▸ by decide
  rcases List.mem_append.1 hpoint with h | h
  · exact hsigns sign hs h
  · rcases hd.plain '.' h with hdigit | hmark
    · cases hdigit
    · exact absurd hmark (by decide)

end Marks

end Phrasebook
