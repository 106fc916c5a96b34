import Mathlib.Data.List.Induction
import Mathlib.Data.List.Forall2

/-! # Lists without repetition, up to sameness

    `List.eraseDups` keeps the first of all elements that are the same. Sameness need not be
    equality, but it is an equivalence here. -/

namespace Phrasebook

variable {α : Type} [BEq α]

/-- No two elements are the same. -/
def Apart (xs : List α) : Prop := xs.Pairwise fun a b => (a == b) = false

variable {a b : α} {xs ys : List α}

/-! ### Without an equivalence -/

/-- An element that is not among the first ones can be taken out behind them. -/
theorem take_filter_of_forall {n : Nat} (h : ∀ b ∈ xs.take (n + 1), (b == a) = false) :
    (xs.filter fun b => !b == a).take n = xs.take n := by
  induction xs generalizing n with
  | nil => rfl
  | cons x xs ih =>
    rw [List.take_succ_cons, List.forall_mem_cons] at h
    rw [List.filter_cons_of_pos (by simp [h.1])]
    cases n with
    | zero => rfl
    | succ n => rw [List.take_succ_cons, List.take_succ_cons, ih h.2]

/-- A condition that does not tell apart what is the same may be asked first or last. -/
theorem eraseDups_filter {p : α → Bool} (hp : ∀ a b, (a == b) = true → p a = p b) (xs : List α) :
    (xs.filter p).eraseDups = xs.eraseDups.filter p := by
  induction hn : xs.length using Nat.strongRecOn generalizing xs with
  | ind n ih =>
    cases xs with
    | nil => rfl
    | cons x xs =>
      subst hn
      have hlt : (xs.filter fun b => !b == x).length < (x :: xs).length :=
        Nat.lt_succ_of_le (List.length_filter_le _ _)
      have hrest := ih _ hlt _ rfl
      rw [List.filter_filter] at hrest
      rw [List.eraseDups_cons]
      by_cases hx : p x = true
      · rw [List.filter_cons_of_pos hx, List.filter_cons_of_pos hx, List.eraseDups_cons, ← hrest,
          List.filter_filter]
        simp only [Bool.and_comm]
      · rw [List.filter_cons_of_neg hx, List.filter_cons_of_neg hx, ← hrest]
        -- what is the same as `x` does not meet the condition either
        congr 1
        apply List.filter_congr
        intro b _
        by_cases hb : (b == x) = true
        · rw [hp b x hb, Bool.eq_false_iff.2 hx]
          rfl
        · rw [Bool.not_eq_true] at hb
          simp [hb]

variable [EquivBEq α]

/-! ### Lists apart -/

theorem Apart.eq_of_beq (h : Apart xs) (ha : a ∈ xs) (hb : b ∈ xs) (hab : (a == b) = true) :
    a = b := by
  induction xs with
  | nil => cases ha
  | cons x xs ih =>
    obtain ⟨hx, hxs⟩ := List.pairwise_cons.1 h
    rcases List.mem_cons.1 ha with hax | hax
    · rcases List.mem_cons.1 hb with hbx | hbx
      · rw [hax, hbx]
      · rw [hax, hx b hbx] at hab
        cases hab
    · rcases List.mem_cons.1 hb with hbx | hbx
      · rw [hbx, BEq.comm, hx a hax] at hab
        cases hab
      · exact ih hxs hax hbx

/-- A list apart is no longer than one that has all its elements up to sameness. -/
theorem Apart.length_le (h : Apart xs) (hall : ∀ a ∈ xs, ∃ b ∈ ys, (b == a) = true) :
    xs.length ≤ ys.length := by
  induction xs generalizing ys with
  | nil => exact Nat.zero_le _
  | cons x xs ih =>
    obtain ⟨hx, hxs⟩ := List.pairwise_cons.1 h
    obtain ⟨y, hy, hyx⟩ := hall x List.mem_cons_self
    obtain ⟨front, back, rfl⟩ := List.append_of_mem hy
    -- `y` is taken by `x`, so the others find theirs beside it
    have hrest : ∀ a ∈ xs, ∃ b ∈ front ++ back, (b == a) = true := by
      intro a ha
      obtain ⟨b, hb, hba⟩ := hall a (List.mem_cons_of_mem x ha)
      by_cases hby : b = y
      · subst hby
        have hxa : (x == a) = true := BEq.trans (BEq.symm hyx) hba
        exact absurd hxa (by rw [hx a ha]; decide)
      · refine ⟨b, ?_, hba⟩
        simp only [List.mem_append, List.mem_cons] at hb ⊢
        rcases hb with hb | hb | hb
        · exact .inl hb
        · exact absurd hb hby
        · exact .inr hb
    have hlength := ih hxs hrest
    simp only [List.length_append, List.length_cons] at hlength ⊢
    omega

/-- The first element that is the same as a given one does not depend on the order. -/
theorem Apart.find?_congr (hx : Apart xs) (hmem : ∀ c, c ∈ xs ↔ c ∈ ys) (a : α) :
    xs.find? (· == a) = ys.find? (· == a) := by
  cases hf : ys.find? (· == a) with
  | none =>
    rw [List.find?_eq_none] at hf ⊢
    intro c hc
    exact hf c ((hmem c).1 hc)
  | some b =>
    have hba : (b == a) = true := by simpa using List.find?_some hf
    have hb : b ∈ xs := (hmem b).2 (List.mem_of_find?_eq_some hf)
    cases hg : xs.find? (· == a) with
    | none =>
      rw [List.find?_eq_none] at hg
      exact absurd hba (hg b hb)
    | some c =>
      have hca : (c == a) = true := by simpa using List.find?_some hg
      rw [hx.eq_of_beq (List.mem_of_find?_eq_some hg) hb (BEq.trans hca (BEq.symm hba))]

/-! ### Beginnings of lists apart -/

/-- An element among the first ones makes room for one more when it is taken out. -/
theorem Apart.take_filter_of_mem {n : Nat} (h : Apart xs) (ha : a ∈ xs.take (n + 1)) :
    (xs.filter fun b => !b == a).take n = (xs.take (n + 1)).filter fun b => !b == a := by
  induction xs generalizing n with
  | nil => simp at ha
  | cons x xs ih =>
    obtain ⟨hx, hxs⟩ := List.pairwise_cons.1 h
    rw [List.take_succ_cons] at ha ⊢
    by_cases hxa : (x == a) = true
    · -- no element behind it is the same
      have hothers : ∀ b ∈ xs, (!b == a) = true := by
        intro b hb
        rw [BEq.comm, ← BEq.congr_left hxa, hx b hb]
        rfl
      have hfirst : ∀ b ∈ xs.take n, (!b == a) = true :=
        fun b hb => hothers b (List.mem_of_mem_take hb)
      rw [List.filter_cons_of_neg (by simp [hxa]), List.filter_cons_of_neg (by simp [hxa]),
        List.filter_eq_self.2 hothers, List.filter_eq_self.2 hfirst]
    · rw [Bool.not_eq_true] at hxa
      have ha' : a ∈ xs.take n := by
        rcases List.mem_cons.1 ha with rfl | ha
        · rw [BEq.rfl] at hxa
          cases hxa
        · exact ha
      cases n with
      | zero => simp at ha'
      | succ n =>
        rw [List.filter_cons_of_pos (by simp [hxa]), List.filter_cons_of_pos (by simp [hxa]),
          List.take_succ_cons, ih hxs ha']

/-! ### Erasing repetitions -/

/-- The first element stays, and what is the same goes. -/
theorem eraseDups_cons_filter (a : α) (xs : List α) :
    (a :: xs).eraseDups = a :: xs.eraseDups.filter fun b => !b == a := by
  rw [List.eraseDups_cons, eraseDups_filter]
  intro b c hbc
  rw [BEq.congr_left hbc]

theorem mem_of_mem_eraseDups (h : a ∈ xs.eraseDups) : a ∈ xs := by
  induction xs with
  | nil => exact h
  | cons x xs ih =>
    rw [eraseDups_cons_filter] at h
    rcases List.mem_cons.1 h with rfl | h
    · exact List.mem_cons_self
    · exact List.mem_cons_of_mem x (ih (List.mem_filter.1 h).1)

theorem apart_eraseDups (xs : List α) : Apart xs.eraseDups := by
  induction xs with
  | nil => exact List.Pairwise.nil
  | cons x xs ih =>
    rw [eraseDups_cons_filter]
    apply List.pairwise_cons.2
    constructor
    · intro b hb
      have hne := (List.mem_filter.1 hb).2
      rw [BEq.comm]
      simpa using hne
    · exact List.Pairwise.filter _ ih

/-- Every element is there, up to sameness. -/
theorem exists_mem_eraseDups (h : a ∈ xs) : ∃ b ∈ xs.eraseDups, (b == a) = true := by
  induction xs with
  | nil => cases h
  | cons x xs ih =>
    rw [eraseDups_cons_filter]
    by_cases hxa : (x == a) = true
    · exact ⟨x, List.mem_cons_self, hxa⟩
    · rcases List.mem_cons.1 h with rfl | h
      · exact absurd BEq.rfl hxa
      · obtain ⟨b, hb, hba⟩ := ih h
        refine ⟨b, List.mem_cons_of_mem x (List.mem_filter.2 ⟨hb, ?_⟩), hba⟩
        rw [BEq.congr_left hba, BEq.comm]
        simpa using hxa

/-- Lists that have the same elements, in whatever order and number, have as many different ones. -/
theorem length_eraseDups_le (h : ∀ a ∈ xs, ∃ b ∈ ys, (b == a) = true) :
    xs.eraseDups.length ≤ ys.eraseDups.length := by
  apply (apart_eraseDups xs).length_le
  intro a ha
  obtain ⟨b, hb, hba⟩ := h a (mem_of_mem_eraseDups ha)
  obtain ⟨c, hc, hcb⟩ := exists_mem_eraseDups hb
  exact ⟨c, hc, BEq.trans hcb hba⟩

theorem length_eraseDups_reverse (xs : List α) :
    xs.reverse.eraseDups.length = xs.eraseDups.length := by
  apply Nat.le_antisymm
  · apply length_eraseDups_le
    intro a ha
    exact ⟨a, List.mem_reverse.1 ha, BEq.rfl⟩
  · apply length_eraseDups_le
    intro a ha
    exact ⟨a, List.mem_reverse.2 ha, BEq.rfl⟩

/-- A new element stands behind the different ones in front of it. -/
theorem eraseDups_append_cons (h : ∀ b ∈ xs, (b == a) = false) (ys : List α) :
    ∃ rest, (xs ++ a :: ys).eraseDups = xs.eraseDups ++ a :: rest := by
  induction xs with
  | nil => exact ⟨_, eraseDups_cons_filter a ys⟩
  | cons x xs ih =>
    rw [List.forall_mem_cons] at h
    obtain ⟨rest, hrest⟩ := ih h.2
    have ha : (!a == x) = true := by
      rw [BEq.comm, h.1]
      rfl
    refine ⟨rest.filter fun b => !b == x, ?_⟩
    rw [List.cons_append, eraseDups_cons_filter, hrest, List.filter_append,
      List.filter_cons_of_pos (by exact ha), eraseDups_cons_filter, List.cons_append]

/-! ### Lists that are the same element by element -/

omit [EquivBEq α] in
theorem exists_mem_of_forall₂ (h : List.Forall₂ (fun a b => (a == b) = true) xs ys) (ha : a ∈ xs) :
    ∃ b ∈ ys, (a == b) = true := by
  induction h with
  | nil => cases ha
  | @cons x y xs ys hxy _ ih =>
    rcases List.mem_cons.1 ha with rfl | ha
    · exact ⟨y, List.mem_cons_self, hxy⟩
    · obtain ⟨b, hb, hab⟩ := ih ha
      exact ⟨b, List.mem_cons_of_mem y hb, hab⟩

/-- They stay so without repetition. -/
theorem forall₂_eraseDups (h : List.Forall₂ (fun a b => (a == b) = true) xs ys) :
    List.Forall₂ (fun a b => (a == b) = true) xs.eraseDups ys.eraseDups := by
  induction h with
  | nil => exact List.Forall₂.nil
  | @cons x y xs ys hxy _ ih =>
    rw [eraseDups_cons_filter, eraseDups_cons_filter]
    apply List.forall₂_cons.2
    constructor
    · exact hxy
    · apply List.rel_filter ?_ ih
      intro a b hab
      show (!a == x) = true ↔ (!b == y) = true
      rw [BEq.congr_left hab, BEq.congr_right hxy]

end Phrasebook
