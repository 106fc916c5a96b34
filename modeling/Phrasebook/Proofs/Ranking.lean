import Mathlib.Data.List.MinMax
import Phrasebook.Proofs.Locale

/-! # The first of the best

    Variants and entries are chosen by rank: what is chosen is the first element of greatest rank,
    as `List.argmax` finds it (`argmax_append_cons`, `exists_of_argmax`). Variants are ranked by how
    well their locales suit a request (`Locale.suitability`). They are looked for in passes, each
    with a weaker demand than the one in front of it, and a pass finds the best variant if none of
    those in front of it has found one (`findVariant_or`). -/

namespace Phrasebook

/-! ### The first of the greatest -/

section Greatest

variable {α : Type} {rank : α → Nat} {xs : List α} {a : α}

theorem argmax_append_cons {front back : List α} (hfront : ∀ b ∈ front, rank b < rank a)
    (hback : ∀ b ∈ back, rank b ≤ rank a) : (front ++ a :: back).argmax rank = some a := by
  induction front with
  | nil =>
    rw [List.nil_append, List.argmax_cons]
    cases hb : back.argmax rank with
    | none => rfl
    | some b => exact if_neg (Nat.not_lt.2 (hback b (List.argmax_mem hb)))
  | cons b front ih =>
    obtain ⟨hlt, hfront⟩ := List.forall_mem_cons.1 hfront
    rw [List.cons_append, List.argmax_cons, ih hfront]
    exact if_pos hlt

/-- Smaller elements stand in front of the one that is found, and none that is greater behind it. -/
theorem exists_of_argmax (h : xs.argmax rank = some a) :
    ∃ front back, xs = front ++ a :: back ∧ (∀ b ∈ front, rank b < rank a) ∧
      ∀ b ∈ back, rank b ≤ rank a := by
  induction xs with
  | nil => cases h
  | cons first rest ih =>
    rw [List.argmax_cons] at h
    cases hrest : rest.argmax rank with
    | none =>
      rw [hrest] at h
      obtain rfl : first = a := Option.some.inj h
      obtain rfl := List.argmax_eq_none.1 hrest
      exact ⟨[], [], rfl, by simp, by simp⟩
    | some b =>
      rw [hrest] at h
      dsimp only at h
      by_cases hlt : rank first < rank b
      · rw [if_pos hlt] at h
        obtain rfl : b = a := Option.some.inj h
        obtain ⟨front, back, rfl, hfront, hback⟩ := ih hrest
        exact ⟨first :: front, back, rfl, List.forall_mem_cons.2 ⟨hlt, hfront⟩, hback⟩
      · -- the first element is not exceeded by the greatest behind it, so by none
        rw [if_neg hlt] at h
        obtain rfl : first = a := Option.some.inj h
        refine ⟨[], rest, rfl, by simp, ?_⟩
        intro c hc
        have hle := List.le_of_mem_argmax hc hrest
        omega

/-- Where no element ranks higher, the first of a rank is the first of the greatest. -/
theorem argmax_of_find? {p : α → Bool} {k : Nat} (h : xs.find? p = some a)
    (hle : ∀ b ∈ xs, rank b ≤ k) (hp : ∀ b ∈ xs, p b = true ↔ rank b = k) :
    xs.argmax rank = some a := by
  have ha : rank a = k := (hp a (List.mem_of_find?_eq_some h)).1 (List.find?_some h)
  obtain ⟨-, front, back, rfl, hfront⟩ := List.find?_eq_some_iff_append.1 h
  obtain ⟨hfrontLe, hbackLe⟩ := List.forall_mem_append.1 hle
  refine argmax_append_cons ?_ ?_
  · intro b hb
    have hne : rank b ≠ k := by
      intro heq
      have hpb := (hp b (List.mem_append_left _ hb)).2 heq
      have hnot := hfront b hb
      rw [hpb] at hnot
      cases hnot
    have hle := hfrontLe b hb
    omega
  · intro b hb
    rw [ha]
    exact hbackLe b (List.mem_cons_of_mem a hb)

end Greatest

/-! ### Variants -/

/-- How well a locale suits a request. The same locale suits best, then, unless the root is
    requested, the language without a region and with another region, then the root. -/
def Locale.suitability (request l : Locale) : Nat :=
  if l = request then 4
  else if request.isRoot = false ∧ l.language = request.language ∧ l.region = none then 3
  else if request.isRoot = false ∧ l.language = request.language then 2
  else if l.isRoot then 1
  else 0

section Variants

variable {α : Type} {variants : List (Locale × α)} {request l : Locale}

namespace Locale

theorem suitability_le (request l : Locale) : request.suitability l ≤ 4 := by
  unfold suitability
  repeat' split
  all_goals omega

theorem suitability_le_of_isRoot (hroot : request.isRoot = true)
    (h : request.suitability l ≤ 3) : request.suitability l ≤ 1 := by
  unfold suitability at h ⊢
  grind

/-- The locales of a rank are those that satisfy a condition, where none ranks higher. -/
def Finds (request : Locale) (p : Locale → Bool) (k : Nat) : Prop :=
  ∀ l, request.suitability l ≤ k → (p l = true ↔ request.suitability l = k)

theorem finds_same (request : Locale) : request.Finds (· == request) 4 := by
  intro l _
  unfold suitability
  grind

theorem finds_languageOnly (hroot : request.isRoot = false) :
    request.Finds (fun l => l.language == request.language && l.region.isNone) 3 := by
  intro l h
  unfold suitability at h ⊢
  grind [Option.isNone_iff_eq_none]

theorem finds_language (hroot : request.isRoot = false) :
    request.Finds (fun l => l.language == request.language) 2 := by
  intro l h
  unfold suitability at h ⊢
  grind

theorem finds_root (request : Locale) : request.Finds isRoot 1 := by
  intro l h
  unfold suitability at h ⊢
  grind

end Locale

/-- The first variant that suits a request best. -/
def bestVariant (variants : List (Locale × α)) (request : Locale) : Option (Locale × α) :=
  variants.argmax fun variant => request.suitability variant.1

/-- A pass finds the best variant, or leaves it to the rest to find it among those that suit less. -/
theorem findVariant_or {p : Locale → Bool} {k : Nat} {rest : Option α}
    (hp : request.Finds p (k + 1))
    (hle : ∀ variant ∈ variants, request.suitability variant.1 ≤ k + 1)
    (hrest : (∀ variant ∈ variants, request.suitability variant.1 ≤ k) →
      rest = (bestVariant variants request).map Prod.snd) :
    (findVariant p variants).or rest = (bestVariant variants request).map Prod.snd := by
  unfold findVariant
  cases hfind : variants.find? fun variant => p variant.1 with
  | some variant =>
    have hbest : bestVariant variants request = some variant :=
      argmax_of_find? hfind hle fun other ho => hp other.1 (hle other ho)
    rw [hbest]
    rfl
  | none =>
    -- no variant has the rank of this pass, so all of them suit less
    refine hrest fun variant hv => ?_
    have hnot := List.find?_eq_none.1 hfind variant hv
    have hne := mt (hp variant.1 (hle variant hv)).2 hnot
    have hv := hle variant hv
    omega

/-- Where no variant suits, the first one is as good as any other. -/
theorem head?_eq_bestVariant
    (hle : ∀ variant ∈ variants, request.suitability variant.1 ≤ 0) :
    variants.head?.map Prod.snd = (bestVariant variants request).map Prod.snd := by
  cases variants with
  | nil => rfl
  | cons first rest =>
    have hbest : bestVariant ([] ++ first :: rest) request = some first := by
      refine argmax_append_cons (by simp) ?_
      intro variant hv
      exact (hle variant (List.mem_cons_of_mem first hv)).trans (Nat.zero_le _)
    rw [List.nil_append] at hbest
    rw [hbest]
    rfl

theorem selectVariant_eq_bestVariant (variants : List (Locale × α)) (request : Locale) :
    selectVariant variants request = (bestVariant variants request).map Prod.snd := by
  have hle : ∀ variant ∈ variants, request.suitability variant.1 ≤ 4 := fun variant _ =>
    request.suitability_le variant.1
  have hroot : (∀ variant ∈ variants, request.suitability variant.1 ≤ 1) →
      (findVariant Locale.isRoot variants).or (variants.head?.map Prod.snd) =
        (bestVariant variants request).map Prod.snd := fun hle =>
    findVariant_or request.finds_root hle head?_eq_bestVariant
  simp only [selectVariant, Option.orElse_eq_orElse, Option.orElse_eq_or]
  refine findVariant_or request.finds_same hle fun hle => ?_
  cases hr : request.isRoot with
  | true =>
    rw [if_pos rfl, Option.none_or]
    exact hroot fun variant hv => Locale.suitability_le_of_isRoot hr (hle variant hv)
  | false =>
    rw [if_neg Bool.false_ne_true, Option.or_assoc]
    refine findVariant_or (Locale.finds_languageOnly hr) hle fun hle => ?_
    exact findVariant_or (Locale.finds_language hr) hle hroot

/-- The variant that is selected is the first of those that suit the request best, and unless there
    are no variants, one is selected. -/
theorem selectVariant_first_best (variants : List (Locale × α)) (request : Locale) :
    (∀ a, selectVariant variants request = some a ↔
      ∃ front l back, variants = front ++ (l, a) :: back ∧
        (∀ other ∈ front, request.suitability other.1 < request.suitability l) ∧
        ∀ other ∈ back, request.suitability other.1 ≤ request.suitability l) ∧
    (selectVariant variants request = none ↔ variants = []) := by
  refine ⟨?_, selectVariant_eq_none_iff⟩
  intro a
  rw [selectVariant_eq_bestVariant, Option.map_eq_some_iff]
  constructor
  · intro h
    obtain ⟨⟨l, a⟩, hbest, rfl⟩ := h
    obtain ⟨front, back, hvariants, hfront, hback⟩ := exists_of_argmax hbest
    exact ⟨front, l, back, hvariants, hfront, hback⟩
  · intro h
    obtain ⟨front, l, back, rfl, hfront, hback⟩ := h
    exact ⟨(l, a), argmax_append_cons hfront hback, rfl⟩

/-- The language without a region comes before the language with another one. -/
example :
    let variants := [(Locale.root, "a"), (⟨"en", some "GB"⟩, "b"), (⟨"en", none⟩, "c")]
    selectVariant variants ⟨"en", some "US"⟩ = some "c" ∧
      selectVariant variants ⟨"nl", none⟩ = some "a" := by
  decide

end Variants

end Phrasebook
