import Phrasebook.Selection

/-! # Collation orders texts, and thresholds follow the order

    Keys are compared level by level, and the lists of a level by their first difference. Both ways
    of putting orders together keep them total and transitive, so collation is a total preorder of
    texts, and sorting by it puts them in order.

    A key that asks for the texts on one side of a threshold matches by this order alone
    (`isMatch_of_threshold`), so it matches no fewer values if the threshold is moved away from
    them. -/

namespace Phrasebook

open Std

/-! ### The order -/

theorem compareLists_eq_compareLex {α : Type} (cmp : α → α → Ordering) :
    compareLists cmp = List.compareLex cmp := by
  funext as bs
  induction as generalizing bs with
  | nil => cases bs <;> rfl
  | cons a as ih =>
    cases bs with
    | nil => rfl
    | cons b bs => rw [compareLists, List.compareLex_cons_cons, ih]

instance {α : Type} (cmp : α → α → Ordering) [TransCmp cmp] : TransCmp (compareLists cmp) := by
  rw [compareLists_eq_compareLex]
  infer_instance

/-- What is compared by something that is ordered is ordered itself. -/
theorem transCmp_on {α β : Type} (cmp : β → β → Ordering) [TransCmp cmp] (f : α → β) :
    TransCmp fun a b => cmp (f a) (f b) where
  eq_swap := OrientedCmp.eq_swap
  isLE_trans := TransCmp.isLE_trans

instance : TransCmp compareChars := transCmp_on compare Char.toNat

instance : TransCmp compareBools := transCmp_on compare Bool.toNat

/-- A level decides where those in front of it find no difference. -/
instance : TransCmp CollationKey.compare :=
  have := transCmp_on (compareLists compareChars) CollationKey.base
  have := transCmp_on (compareLists compareChars) CollationKey.accented
  have := transCmp_on (compareLists compareBools) CollationKey.upper
  inferInstanceAs (TransCmp (compareLex
    (fun a b : CollationKey => compareLists compareChars a.base b.base)
    (compareLex (fun a b => compareLists compareChars a.accented b.accented)
      fun a b => compareLists compareBools a.upper b.upper)))

instance : TransCmp collate := transCmp_on CollationKey.compare collationKey

/-- Sorted texts are in order, the later ones behind all before them. -/
theorem pairwise_sortByCollation (texts : List String) :
    (sortByCollation texts).Pairwise fun s t => (collate s t).isLE = true := by
  have hle (s t : String) : (collate s t != .gt) = (collate s t).isLE := by
    cases collate s t <;> rfl
  have htrans (s t u : String) (hst : (collate s t).isLE = true)
      (htu : (collate t u).isLE = true) : (collate s u).isLE = true :=
    TransCmp.isLE_trans hst htu
  have htotal (s t : String) : ((collate s t).isLE || (collate t s).isLE) = true := by
    have hswap : collate t s = (collate s t).swap := OrientedCmp.eq_swap
    rw [hswap]
    cases collate s t <;> rfl
  unfold sortByCollation
  simp only [hle]
  exact List.pairwise_mergeSort htrans htotal texts

/-! ### Thresholds -/

/-- Strings compare with the text that a value shows, which counts more if it is its own. -/
theorem matchString_of_ne_null {value : Value} (hv : value ≠ .null) (relation : Comparator)
    (key : String) : matchString relation key value =
      matchText relation key value.display
        (if value.text?.isSome then .exact else .equivalent) := by
  cases value with
  | null => exact absurd rfl hv
  | _ => rfl

/-- A value is on the wanted side of a threshold if its text is so in collation order. -/
theorem isMatch_of_threshold {value : Value} (hv : value ≠ .null) {relation : Comparator}
    (heq : relation ≠ .eq) (hne : relation ≠ .ne) (context : MatchContext) (key : String) :
    (matchKey context value (.string relation key)).isMatch =
      relation.holds (collate value.display key) := by
  rw [matchKey, matchString_of_ne_null hv]
  -- equal texts match, whether the text is the value's own or only shown
  generalize hidentical : (if value.text?.isSome then Strength.exact else .equivalent) = identical
  have hmatch : identical.isMatch = true := by
    rw [← hidentical]
    split <;> rfl
  have hside (side : Bool) : (if side then identical else .mismatch).isMatch = side := by
    cases side with
    | false => rfl
    | true => exact hmatch
  cases relation with
  | eq => exact absurd rfl heq
  | ne => exact absurd rfl hne
  | lt | le | gt | ge => exact hside _

/-- The relations of the four thresholds as orderings. -/
theorem Comparator.holds_thresholds (o : Ordering) :
    (Comparator.lt.holds o = true ↔ o = .lt) ∧ (Comparator.le.holds o = true ↔ o.isLE = true) ∧
    (Comparator.gt.holds o = true ↔ o = .gt) ∧ (Comparator.ge.holds o = true ↔ o.isGE = true) := by
  cases o <;> decide

/-- Collation is total and transitive. So a key that wants texts below a threshold matches what it
    matches with a lower threshold, and one that wants texts above it what it matches with a higher
    one. -/
theorem collate_order_and_thresholds :
    (∀ a b, collate b a = (collate a b).swap) ∧
    (∀ a b c, collate a b ≠ .gt → collate b c ≠ .gt → collate a c ≠ .gt) ∧
    ∀ (context : MatchContext) (value : Value) (s t : String),
      value ≠ .null → collate s t ≠ .gt →
      let Matches relation key := (matchKey context value (.string relation key)).isMatch = true
      (Matches .lt s → Matches .lt t) ∧ (Matches .le s → Matches .le t) ∧
      (Matches .gt t → Matches .gt s) ∧ (Matches .ge t → Matches .ge s) := by
  refine ⟨fun a b => OrientedCmp.eq_swap, ?_, ?_⟩
  · intro a b c hab hbc
    have hac := TransCmp.isLE_trans (Ordering.isLE_iff_ne_gt.2 hab) (Ordering.isLE_iff_ne_gt.2 hbc)
    exact Ordering.isLE_iff_ne_gt.1 hac
  · intro context value s t hv hst Matches
    have hup : (collate s t).isLE := Ordering.isLE_iff_ne_gt.2 hst
    have hdown : (collate t s).isGE := OrientedCmp.isGE_of_isLE hup
    have hside {relation : Comparator} (heq : relation ≠ .eq) (hne : relation ≠ .ne)
        (key : String) :
        Matches relation key ↔ relation.holds (collate value.display key) = true := by
      rw [← isMatch_of_threshold hv heq hne context key]
    have hlt key := (hside (by decide) (by decide) key).trans (Comparator.holds_thresholds _).1
    have hle key := (hside (by decide) (by decide) key).trans (Comparator.holds_thresholds _).2.1
    have hgt key := (hside (by decide) (by decide) key).trans (Comparator.holds_thresholds _).2.2.1
    have hge key := (hside (by decide) (by decide) key).trans (Comparator.holds_thresholds _).2.2.2
    rw [hlt, hlt, hle, hle, hgt, hgt, hge, hge]
    exact ⟨fun h => TransCmp.lt_of_lt_of_isLE h hup, fun h => TransCmp.isLE_trans h hup,
      fun h => TransCmp.gt_of_gt_of_isGE h hdown, fun h => TransCmp.isGE_trans h hdown⟩

/-- Accents and case come after letters, so what is below `É` is below `f`. -/
theorem collate_thresholds_letters :
    let Matches key :=
      (matchKey (.ofLocale .root) (.string "e") (.string .lt key)).isMatch = true
    collate "e" "é" ≠ .gt ∧ collate "é" "É" ≠ .gt ∧ collate "e" "É" ≠ .gt ∧
      collate "É" "f" ≠ .gt ∧ Matches "É" ∧ Matches "f" := by
  have hlow : collate "e" "é" ≠ .gt := by decide +kernel
  have hcase : collate "é" "É" ≠ .gt := by decide +kernel
  have hletter : collate "É" "f" ≠ .gt := by decide +kernel
  have hmatch :
      (matchKey (.ofLocale .root) (.string "e") (.string .lt "É")).isMatch = true := by
    decide +kernel
  have hthresholds := collate_order_and_thresholds.2.2 (.ofLocale .root) (.string "e") "É" "f"
    (by rintro ⟨⟩) hletter
  exact ⟨hlow, hcase, collate_order_and_thresholds.2.1 _ _ _ hlow hcase, hletter, hmatch,
    hthresholds.1 hmatch⟩

end Phrasebook
