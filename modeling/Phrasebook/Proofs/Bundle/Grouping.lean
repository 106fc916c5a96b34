import Mathlib.Data.List.Induction
import Mathlib.Data.List.Nodup
import Phrasebook.Bundle

/-! # Rows by code

    Rows are grouped one after another. As long as no row repeats the code and the locale of one in
    front of it, the groups are those of the distinct codes, in the order in which the codes appear,
    and a group has the templates of its code in the order of the rows. The first row that repeats
    both ends the grouping. -/

namespace Phrasebook

/-- What may stand in a table only once. -/
def TableRow.key (row : TableRow) : String × Locale := (row.code, row.locale)

namespace Bundle

variable {α β : Type} {front rows : List TableRow} {row : TableRow}

/-- Distinct codes in the order in which they appear. -/
def codesOf (rows : List TableRow) : List String := (rows.map TableRow.code).eraseDups

/-- The rows of a code in order, as variants with a value for each row. -/
def variantsOf (value : TableRow → α) (rows : List TableRow) (code : String) : List (Locale × α) :=
  (rows.filter (·.code = code)).map fun row => (row.locale, value row)

/-- The templates of every code. -/
def groupsOf (rows : List TableRow) : List CodeGroup :=
  (codesOf rows).map fun code => (code, variantsOf TableRow.template rows code)

/-! ### Codes -/

theorem mem_codesOf {code : String} : code ∈ codesOf rows ↔ ∃ row ∈ rows, row.code = code := by
  rw [codesOf, List.mem_eraseDups, List.mem_map]

theorem codesOf_concat_of_mem (h : row.code ∈ codesOf front) :
    codesOf (front ++ [row]) = codesOf front := by
  have hold : (front.map TableRow.code).contains row.code = true :=
    List.contains_iff_mem.2 (List.mem_eraseDups.1 h)
  rw [codesOf, List.map_append, List.eraseDups_append, List.map_singleton, List.cons_removeAll,
    List.nil_removeAll, if_neg (by rw [hold]; decide), List.eraseDups_nil, List.append_nil, codesOf]

theorem codesOf_concat_of_not_mem (h : row.code ∉ codesOf front) :
    codesOf (front ++ [row]) = codesOf front ++ [row.code] := by
  have hnew : (front.map TableRow.code).contains row.code = false := by
    rw [← Bool.not_eq_true, List.contains_iff_mem]
    exact fun hm => h (List.mem_eraseDups.2 hm)
  rw [codesOf, List.map_append, List.eraseDups_append, List.map_singleton, List.cons_removeAll,
    List.nil_removeAll, if_pos hnew, codesOf]
  rfl

theorem nodup_codesOf (rows : List TableRow) : (codesOf rows).Nodup := by
  induction rows using List.reverseRecOn with
  | nil => exact List.nodup_nil
  | append_singleton front row ih =>
    by_cases h : row.code ∈ codesOf front
    · rw [codesOf_concat_of_mem h]
      exact ih
    · rw [codesOf_concat_of_not_mem h, ← List.concat_eq_append, List.nodup_concat]
      exact ⟨h, ih⟩

theorem length_codesOf_le (rows : List TableRow) : (codesOf rows).length ≤ rows.length := by
  induction rows using List.reverseRecOn with
  | nil => exact Nat.le_refl _
  | append_singleton front row ih =>
    rw [List.length_append]
    by_cases h : row.code ∈ codesOf front
    · rw [codesOf_concat_of_mem h]
      omega
    · rw [codesOf_concat_of_not_mem h, List.length_append]
      simp only [List.length_singleton]
      omega

/-! ### Variants -/

variable {value : TableRow → α} {code : String}

theorem mem_variantsOf {variant : Locale × α} :
    variant ∈ variantsOf value rows code ↔
      ∃ row ∈ rows, row.code = code ∧ (row.locale, value row) = variant := by
  simp [variantsOf, and_assoc]

theorem variantsOf_map (value : TableRow → α) (f : α → β) :
    variantsOf (fun row => f (value row)) rows code =
      (variantsOf value rows code).map fun variant => (variant.1, f variant.2) := by
  rw [variantsOf, variantsOf, List.map_map]
  rfl

theorem length_variantsOf_le : (variantsOf value rows code).length ≤ rows.length := by
  rw [variantsOf, List.length_map]
  exact List.length_filter_le _ _

/-- A code has variants if a row has the code. -/
theorem variantsOf_ne_nil_iff : variantsOf value rows code ≠ [] ↔ code ∈ codesOf rows := by
  rw [mem_codesOf, variantsOf, ne_eq, List.map_eq_nil_iff, List.filter_eq_nil_iff]
  simp

/-- The locale stands among the variants of the code of a row if a row in front has the same key. -/
theorem mem_locales_iff :
    row.locale ∈ (variantsOf value front row.code).map Prod.fst ↔
      row.key ∈ front.map TableRow.key := by
  simp only [List.mem_map, mem_variantsOf, TableRow.key, Prod.mk.injEq]
  constructor
  · rintro ⟨variant, ⟨other, ho, hcode, rfl⟩, hlocale⟩
    exact ⟨other, ho, hcode, hlocale⟩
  · rintro ⟨other, ho, hcode, hlocale⟩
    exact ⟨(other.locale, value other), ⟨other, ho, hcode, rfl⟩, hlocale⟩

theorem variantsOf_concat_of_eq (h : row.code = code) :
    variantsOf value (front ++ [row]) code =
      variantsOf value front code ++ [(row.locale, value row)] := by
  simp [variantsOf, List.filter_append, h]

theorem variantsOf_concat_of_ne (h : row.code ≠ code) :
    variantsOf value (front ++ [row]) code = variantsOf value front code := by
  simp [variantsOf, List.filter_append, h]

/-! ### One row -/

section AddRow

variable {codes : List String} {templates : String → List (Locale × String)}

/-- A row with a new code gets a group of its own behind the others. -/
theorem addRow_of_not_mem (h : row.code ∉ codes) :
    addRow row (codes.map fun code => (code, templates code)) =
      .ok ((codes.map fun code => (code, templates code)) ++
        [(row.code, [(row.locale, row.template)])]) := by
  induction codes with
  | nil => rfl
  | cons code codes ih =>
    have hne : row.code ≠ code := fun he => h (he ▸ List.mem_cons_self)
    have hrest := ih fun hm => h (List.mem_cons_of_mem code hm)
    rw [List.map_cons, addRow, if_neg hne, hrest]
    rfl

/-- A row with a known code and a new locale is added to the group of its code. -/
theorem addRow_of_mem (hcodes : codes.Nodup) (hmem : row.code ∈ codes)
    (hnew : row.locale ∉ (templates row.code).map Prod.fst) :
    addRow row (codes.map fun code => (code, templates code)) =
      .ok (codes.map fun code => (code,
        if row.code = code then templates code ++ [(row.locale, row.template)]
        else templates code)) := by
  induction codes with
  | nil => cases hmem
  | cons code codes ih =>
    obtain ⟨hcode, hrest⟩ := List.nodup_cons.1 hcodes
    rw [List.map_cons, List.map_cons, addRow]
    by_cases he : row.code = code
    · -- the groups of the other codes stay as they are
      have hothers : ∀ other ∈ codes, row.code ≠ other := by
        rintro other ho rfl
        exact hcode (he ▸ ho)
      have hsame : (codes.map fun other => (other,
          if row.code = other then templates other ++ [(row.locale, row.template)]
          else templates other)) = codes.map fun other => (other, templates other) := by
        apply List.map_congr_left
        intro other ho
        rw [if_neg (hothers other ho)]
      subst he
      rw [if_pos rfl, if_pos rfl, if_neg (by simpa using hnew), hsame]
    · have hmem' : row.code ∈ codes := (List.mem_cons.1 hmem).resolve_left he
      rw [if_neg he, if_neg he, ih hrest hmem']
      rfl

/-- A row that repeats a locale in the group of its code is refused. -/
theorem addRow_of_repeated (hmem : row.code ∈ codes)
    (hold : row.locale ∈ (templates row.code).map Prod.fst) :
    addRow row (codes.map fun code => (code, templates code)) =
      .error (.duplicateLocale row.code row.locale) := by
  induction codes with
  | nil => cases hmem
  | cons code codes ih =>
    rw [List.map_cons, addRow]
    by_cases he : row.code = code
    · subst he
      rw [if_pos rfl, if_pos (by simpa using hold)]
    · have hmem' : row.code ∈ codes := (List.mem_cons.1 hmem).resolve_left he
      rw [if_neg he, ih hmem']
      rfl

end AddRow

/-- A row whose key is new joins the groups of the rows in front of it. -/
theorem addRow_groupsOf (h : row.key ∉ front.map TableRow.key) :
    addRow row (groupsOf front) = .ok (groupsOf (front ++ [row])) := by
  have hlocale : row.locale ∉ (variantsOf TableRow.template front row.code).map Prod.fst :=
    fun hm => h (mem_locales_iff.1 hm)
  by_cases hmem : row.code ∈ codesOf front
  · -- the code is known: its group grows by the row
    rw [groupsOf, addRow_of_mem (nodup_codesOf front) hmem hlocale, groupsOf,
      codesOf_concat_of_mem hmem]
    refine congrArg Except.ok (List.map_congr_left fun code _ => ?_)
    by_cases he : row.code = code
    · rw [if_pos he, variantsOf_concat_of_eq he]
    · rw [if_neg he, variantsOf_concat_of_ne he]
  · -- the code is new: its group is the row alone
    have hnil : variantsOf TableRow.template front row.code = [] := by
      by_contra hne
      exact hmem (variantsOf_ne_nil_iff.1 hne)
    have hothers : ∀ code ∈ codesOf front, row.code ≠ code := by
      rintro code hc rfl
      exact hmem hc
    have hsame : (codesOf front).map (fun code =>
        (code, variantsOf TableRow.template (front ++ [row]) code)) = groupsOf front := by
      apply List.map_congr_left
      intro code hc
      rw [variantsOf_concat_of_ne (hothers code hc)]
    rw [groupsOf, addRow_of_not_mem hmem, groupsOf, codesOf_concat_of_not_mem hmem,
      List.map_append, hsame, List.map_singleton, variantsOf_concat_of_eq rfl, hnil]
    rfl

/-- A row whose key stands in front of it is refused. -/
theorem addRow_groupsOf_of_repeated (h : row.key ∈ front.map TableRow.key) :
    addRow row (groupsOf front) = .error (.duplicateLocale row.code row.locale) := by
  have hcode : row.code ∈ codesOf front := by
    obtain ⟨other, ho, he⟩ := List.mem_map.1 h
    exact mem_codesOf.2 ⟨other, ho, congrArg Prod.fst he⟩
  exact addRow_of_repeated hcode (mem_locales_iff.2 h)

/-! ### All rows -/

theorem groupRows_concat (front : List TableRow) (row : TableRow) :
    groupRows (front ++ [row]) = groupRows front >>= addRow row := by
  rw [groupRows, List.foldlM_append]
  simp [groupRows]

/-- Rows without repetition are grouped by code. -/
theorem groupRows_of_nodup (h : (rows.map TableRow.key).Nodup) :
    groupRows rows = .ok (groupsOf rows) := by
  induction rows using List.reverseRecOn with
  | nil => rfl
  | append_singleton front row ih =>
    rw [List.map_append, List.map_singleton, ← List.concat_eq_append, List.nodup_concat] at h
    obtain ⟨hnew, hfront⟩ := h
    rw [groupRows_concat, ih hfront]
    exact addRow_groupsOf hnew

/-- The first row that repeats a key ends the grouping, whatever stands behind it. -/
theorem groupRows_of_repeated (hfront : (front.map TableRow.key).Nodup)
    (h : row.key ∈ front.map TableRow.key) (back : List TableRow) :
    groupRows (front ++ row :: back) = .error (.duplicateLocale row.code row.locale) := by
  have hgroups := groupRows_of_nodup hfront
  unfold groupRows at hgroups ⊢
  rw [List.foldlM_append, hgroups]
  -- the rows behind are not looked at
  show (List.foldlM (fun groups row => addRow row groups) (groupsOf front) (row :: back)) = _
  rw [List.foldlM_cons, addRow_groupsOf_of_repeated h]
  rfl

/-- If a key repeats, there is a first row that repeats one. -/
theorem exists_first_repeated (h : ¬ (rows.map TableRow.key).Nodup) :
    ∃ front row back, rows = front ++ row :: back ∧ (front.map TableRow.key).Nodup ∧
      row.key ∈ front.map TableRow.key := by
  induction rows using List.reverseRecOn with
  | nil => exact absurd List.nodup_nil h
  | append_singleton rows last ih =>
    by_cases hrows : (rows.map TableRow.key).Nodup
    · -- only the last row can repeat a key
      rw [List.map_append, List.map_singleton, ← List.concat_eq_append, List.nodup_concat] at h
      refine ⟨rows, last, [], rfl, hrows, ?_⟩
      by_contra hnew
      exact h ⟨hnew, hrows⟩
    · obtain ⟨front, row, back, rfl, hfront, hold⟩ := ih hrows
      exact ⟨front, row, back ++ [last], by simp, hfront, hold⟩

end Bundle

end Phrasebook
