import Phrasebook.Locale

/-! # Locale tags are read back, and variants are chosen by locale

    A locale that was read from a tag keeps the language in lower and the region in upper case, so
    its own tag may differ from the one it was read from. Reading its own tag gives the locale
    again.

    Which variant is chosen for a locale does not depend on what the variants hold. -/

namespace Phrasebook

/-! ### Characters of tags -/

theorem toNat_lt_of_isAlphanum {c : Char} (h : c.isAlphanum = true) : c.toNat < 128 := by
  delta Char.isAlphanum Char.isAlpha Char.isUpper Char.isLower Char.isDigit at h
  simp only [Bool.or_eq_true, Bool.decide_and, Bool.and_eq_true, decide_eq_true_eq,
    UInt32.le_iff_toNat_le, ge_iff_le] at h
  have hz : ('z' : Char).val.toNat = 122 := rfl
  have hZ : ('Z' : Char).val.toNat = 90 := rfl
  have h9 : ('9' : Char).val.toNat = 57 := rfl
  have hc : c.toNat = c.val.toNat := rfl
  omega

/-- Letters and digits stay what they are in either case, and are neither whitespace nor
    separators. -/
theorem tag_character {c : Char} (h : c.isAlphanum = true) :
    isWhitespace c = false ∧ Locale.isTagSeparator c = false ∧
      c.toLower.isAlpha = c.isAlpha ∧ c.toLower.toLower = c.toLower ∧
      c.toUpper.isAlpha = c.isAlpha ∧ c.toUpper.isDigit = c.isDigit ∧
      c.toUpper.toUpper = c.toUpper := by
  have hlt := toNat_lt_of_isAlphanum h
  -- only ASCII characters are left, and these are checked one by one
  rw [← Char.ofNat_toNat c] at h ⊢
  generalize c.toNat = n at hlt h ⊢
  revert n
  decide

theorem strip_eq_self {p : Char → Bool} {cs : List Char} (h : ∀ c ∈ cs, p c = false) :
    strip p cs = cs := by
  have hdrop {ds : List Char} (hd : ∀ c ∈ ds, p c = false) : ds.dropWhile p = ds := by
    cases ds with
    | nil => rfl
    | cons d ds => rw [List.dropWhile_cons_of_neg (by simp [hd])]
  rw [strip, dropEndWhile, hdrop h, hdrop (by simpa using h), List.reverse_reverse]

namespace Locale

/-! ### Codes in the case that locales keep -/

/-- The code of a language in lower case. -/
structure IsLanguage (cs : List Char) : Prop where
  /-- It is a code. -/
  code : isLanguageCode cs = true
  /-- Its letters are in lower case. -/
  lower : cs.map Char.toLower = cs

/-- The code of a region in upper case. -/
structure IsRegion (cs : List Char) : Prop where
  /-- It is a code. -/
  code : isRegionCode cs = true
  /-- Its letters are in upper case. -/
  upper : cs.map Char.toUpper = cs

theorem isAlphanum_of_isLanguageCode {cs : List Char} (h : isLanguageCode cs = true) :
    ∀ c ∈ cs, c.isAlphanum = true := by
  intro c hc
  simp only [isLanguageCode, Bool.and_eq_true, List.all_eq_true] at h
  simp [Char.isAlphanum, h.2 c hc]

theorem isAlphanum_of_isRegionCode {cs : List Char} (h : isRegionCode cs = true) :
    ∀ c ∈ cs, c.isAlphanum = true := by
  intro c hc
  simp only [isRegionCode, Bool.or_eq_true, Bool.and_eq_true, List.all_eq_true] at h
  rcases h with ⟨-, h⟩ | ⟨-, h⟩ <;> simp [Char.isAlphanum, h c hc]

theorem isLanguage_map_toLower {cs : List Char} (h : isLanguageCode cs = true) :
    IsLanguage (cs.map Char.toLower) := by
  have ha := isAlphanum_of_isLanguageCode h
  simp only [isLanguageCode, Bool.and_eq_true, List.all_eq_true] at h
  constructor
  · simp only [isLanguageCode, Bool.and_eq_true, List.all_eq_true, List.length_map, List.mem_map]
    refine ⟨h.1, ?_⟩
    rintro _ ⟨c, hc, rfl⟩
    rw [(tag_character (ha c hc)).2.2.1, h.2 c hc]
  · rw [List.map_map]
    exact List.map_congr_left fun c hc => (tag_character (ha c hc)).2.2.2.1

theorem isRegion_map_toUpper {cs : List Char} (h : isRegionCode cs = true) :
    IsRegion (cs.map Char.toUpper) := by
  have ha := isAlphanum_of_isRegionCode h
  simp only [isRegionCode, Bool.or_eq_true, Bool.and_eq_true, List.all_eq_true] at h
  constructor
  · simp only [isRegionCode, Bool.or_eq_true, Bool.and_eq_true, List.all_eq_true, List.length_map,
      List.mem_map]
    refine h.imp (fun h => ⟨h.1, ?_⟩) (fun h => ⟨h.1, ?_⟩)
    · rintro _ ⟨c, hc, rfl⟩
      rw [(tag_character (ha c hc)).2.2.2.2.1, h.2 c hc]
    · rintro _ ⟨c, hc, rfl⟩
      rw [(tag_character (ha c hc)).2.2.2.2.2.1, h.2 c hc]
  · rw [List.map_map]
    exact List.map_congr_left fun c hc => (tag_character (ha c hc)).2.2.2.2.2.2

/-- The locales that tags are read as. -/
inductive Canonical : Locale → Prop
  /-- The root locale. -/
  | root : Canonical .root
  /-- A language. -/
  | language {cs : List Char} (h : IsLanguage cs) : Canonical ⟨String.ofList cs, none⟩
  /-- A language and a region. -/
  | region {cs ds : List Char} (h : IsLanguage cs) (hr : IsRegion ds) :
      Canonical ⟨String.ofList cs, some (String.ofList ds)⟩

theorem length_of_isLanguageCode {cs : List Char} (h : isLanguageCode cs = true) :
    cs.length = 2 ∨ cs.length = 3 := by
  simp only [isLanguageCode, Bool.and_eq_true, Bool.or_eq_true, beq_iff_eq] at h
  exact h.1

theorem ne_nil_of_isRegionCode {cs : List Char} (h : isRegionCode cs = true) : cs ≠ [] := by
  rintro rfl
  simp [isRegionCode] at h

theorem length_of_isRegionCode {cs : List Char} (h : isRegionCode cs = true) :
    cs.length = 2 ∨ cs.length = 3 := by
  simp only [isRegionCode, Bool.and_eq_true, Bool.or_eq_true, beq_iff_eq] at h
  exact h.imp And.left And.left

/-- A tag has at most two codes of three characters. -/
theorem Canonical.length_tag_le {l : Locale} (h : l.Canonical) : l.tag.length ≤ 7 := by
  cases h with
  | root => decide
  | @language cs h =>
    have hlen := length_of_isLanguageCode h.code
    simp only [tag, String.length_ofList]
    omega
  | @region cs ds h hr =>
    have hlen := length_of_isLanguageCode h.code
    have hregion := length_of_isRegionCode hr.code
    have hdash : "-".length = 1 := rfl
    simp only [tag, String.length_append, String.length_ofList]
    omega

theorem canonical_of_parse {tag : String} {l : Locale} (h : parse tag = .ok l) : l.Canonical := by
  unfold parse at h
  simp only at h
  split at h
  · obtain rfl := Except.ok.inj h
    exact .root
  split at h
  · rename_i language region hs
    obtain rfl := Except.ok.inj h
    unfold splitTag? at hs
    simp only at hs
    split at hs
    · obtain ⟨rfl, rfl⟩ := Prod.mk.inj (Option.some.inj hs)
      exact .root
    split at hs
    · simp at hs
    -- the language is one by the guard, in whatever case it was written
    rename_i hl
    have hlang := isLanguage_map_toLower (Bool.not_eq_false _ ▸ Bool.not_eq_true' _ ▸ hl)
    split at hs
    · obtain ⟨rfl, rfl⟩ := Prod.mk.inj (Option.some.inj hs)
      simpa [make, lowerAscii] using Canonical.language hlang
    split at hs
    · rename_i hr
      obtain ⟨rfl, rfl⟩ := Prod.mk.inj (Option.some.inj hs)
      have hne : String.ofList ‹List Char› ≠ "" := by simpa using ne_nil_of_isRegionCode hr
      simpa [make, lowerAscii, upperAscii, Option.filter_some_pos, hne] using
        Canonical.region hlang (isRegion_map_toUpper hr)
    · simp at hs
  · simp at h

/-! ### Reading the own tag -/

/-- Reading trims and splits a tag; neither changes one that is made of codes. -/
theorem parse_ofList {cs : List Char} {language : List Char} {region : Option (List Char)}
    (hblank : ∀ c ∈ cs, isWhitespace c = false) (hroot : cs.map Char.toLower ≠ "root".toList)
    (hsplit : splitTag? cs = some (language, region)) :
    parse (String.ofList cs) = .ok (make (String.ofList language) (region.map String.ofList)) := by
  have htrim : trimBlank (String.ofList cs) = String.ofList cs := by
    rw [trimBlank, String.toList_ofList, strip_eq_self hblank]
  have hword : eqIgnoringAsciiCase (String.ofList cs) "root" = false := by
    rw [eqIgnoringAsciiCase, String.toList_ofList, beq_eq_false_iff_ne]
    exact hroot
  simp only [parse, htrim, hword, String.toList_ofList, hsplit]
  rfl

theorem takeWhile_of_isLanguageCode {cs : List Char} (h : isLanguageCode cs = true)
    (rest : List Char) :
    (cs ++ rest).takeWhile (fun c => !isTagSeparator c) =
      cs ++ rest.takeWhile (fun c => !isTagSeparator c) := by
  refine List.takeWhile_append_of_pos fun c hc => ?_
  rw [(tag_character (isAlphanum_of_isLanguageCode h c hc)).2.1]
  rfl

theorem Canonical.parse_tag {l : Locale} (h : l.Canonical) : parse l.tag = .ok l := by
  cases h with
  | root => rfl
  | @language cs h =>
    have hlen := length_of_isLanguageCode h.code
    have ha := isAlphanum_of_isLanguageCode h.code
    have htake : cs.takeWhile (fun c => !isTagSeparator c) = cs := by
      have := takeWhile_of_isLanguageCode h.code []
      rwa [List.append_nil, List.takeWhile_nil, List.append_nil] at this
    have hsplit : splitTag? cs = some (cs, none) := by
      have hne : cs ≠ [] := by rintro rfl; simp at hlen
      simp [splitTag?, htake, h.code, hne]
    have hroot : cs.map Char.toLower ≠ "root".toList := by
      intro he
      have := congrArg List.length he
      simp at this
      omega
    have hp := parse_ofList (fun c hc => (tag_character (ha c hc)).1) hroot hsplit
    simpa [tag, make, lowerAscii, h.lower] using hp
  | @region cs ds h hr =>
    have hlen := length_of_isLanguageCode h.code
    have ha := isAlphanum_of_isLanguageCode h.code
    have had := isAlphanum_of_isRegionCode hr.code
    have htake : (cs ++ '-' :: ds).takeWhile (fun c => !isTagSeparator c) = cs := by
      rw [takeWhile_of_isLanguageCode h.code]
      simp [isTagSeparator]
    have hsplit : splitTag? (cs ++ '-' :: ds) = some (cs, some ds) := by
      simp [splitTag?, htake, h.code, hr.code]
    have hblank : ∀ c ∈ cs ++ '-' :: ds, isWhitespace c = false := by
      simp only [List.mem_append, List.mem_cons]
      rintro c (hc | rfl | hc)
      · exact (tag_character (ha c hc)).1
      · rfl
      · exact (tag_character (had c hc)).1
    -- the separator keeps the tag apart from the word for the root locale
    have hroot : (cs ++ '-' :: ds).map Char.toLower ≠ "root".toList := by
      intro he
      have hmem : ('-' : Char) ∈ (cs ++ '-' :: ds).map Char.toLower :=
        List.mem_map.2 ⟨'-', by simp, rfl⟩
      rw [he] at hmem
      exact absurd hmem (by decide)
    have htag : tag ⟨String.ofList cs, some (String.ofList ds)⟩ = String.ofList (cs ++ '-' :: ds) :=
      String.toList_inj.1 (by simp [tag])
    have hne : String.ofList ds ≠ "" := by simpa using ne_nil_of_isRegionCode hr.code
    rw [htag, parse_ofList hblank hroot hsplit]
    simp [make, lowerAscii, upperAscii, h.lower, hr.upper, Option.filter_some_pos, hne]

/-- Reading the tag of a locale that was read from some tag gives the locale again. -/
theorem parse_tag {tag : String} {l : Locale} (h : parse tag = .ok l) : parse l.tag = .ok l :=
  (canonical_of_parse h).parse_tag

end Locale

/-! ### Choosing a variant -/

section Select

variable {α β : Type} {variants : List (Locale × α)} {request : Locale}

theorem findVariant_map (p : Locale → Bool) (f : α → β) :
    findVariant p (variants.map fun variant => (variant.1, f variant.2)) =
      (findVariant p variants).map f := by
  rw [findVariant, findVariant, List.find?_map, Option.map_map, Option.map_map]
  rfl

/-- What the variants hold does not matter to which of them is selected. -/
theorem selectVariant_map (f : α → β) (variants : List (Locale × α)) (request : Locale) :
    selectVariant (variants.map fun variant => (variant.1, f variant.2)) request =
      (selectVariant variants request).map f := by
  simp only [selectVariant, Option.orElse_eq_orElse, Option.orElse_eq_or, Option.map_or,
    findVariant_map, List.head?_map, Option.map_map]
  split <;> simp [Option.map_or, Function.comp_def]

/-- Unless there are no variants, one is selected. -/
theorem exists_selectVariant (h : variants ≠ []) :
    ∃ a, selectVariant variants request = some a := by
  obtain ⟨first, rest, rfl⟩ := List.exists_cons_of_ne_nil h
  rw [← Option.isSome_iff_exists]
  simp [selectVariant, Option.orElse_eq_orElse, Option.orElse_eq_or]

theorem selectVariant_nil (request : Locale) :
    selectVariant ([] : List (Locale × α)) request = none := by
  unfold selectVariant findVariant
  split <;> rfl

theorem selectVariant_eq_none_iff : selectVariant variants request = none ↔ variants = [] := by
  constructor
  · intro h
    cases variants with
    | nil => rfl
    | cons first rest =>
      obtain ⟨a, ha⟩ : ∃ a, selectVariant (first :: rest) request = some a :=
        exists_selectVariant (List.cons_ne_nil first rest)
      cases h.symm.trans ha
  · intro h
    rw [h, selectVariant_nil]

end Select

end Phrasebook
