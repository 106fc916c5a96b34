/-! # Results that may be errors

    What a chain of steps succeeds with comes from what its steps succeed with, and its errors are
    those of its steps. `FailsOnly allowed r` says that `r` is an allowed error if it is one at all,
    and `GivesOnly wanted r` that it is wanted if it is none. Both pass through chains, so only the
    places where errors and results come up are left to look at. -/

namespace Phrasebook

variable {ε ε' α β : Type}

/-! ### Success -/

/-- Behind a result that was mapped stands the result itself. -/
theorem exists_of_map_eq_ok {r : Except ε α} {f : α → β} {b : β} (h : r.map f = .ok b) :
    ∃ a, r = .ok a ∧ f a = b := by
  cases r with
  | error e => cases h
  | ok a => exact ⟨a, rfl, Except.ok.inj h⟩

theorem exists_of_bind_eq_ok {r : Except ε α} {next : α → Except ε β} {b : β}
    (h : r >>= next = .ok b) : ∃ a, r = .ok a ∧ next a = .ok b := by
  cases r with
  | error e => cases h
  | ok a => exact ⟨a, rfl, h⟩

/-- A change to the error leaves success alone. -/
theorem eq_ok_of_mapError_eq_ok {r : Except ε α} {f : ε → ε'} {a : α}
    (h : r.mapError f = .ok a) : r = .ok a := by
  cases r with
  | error e => cases h
  | ok a' => exact congrArg Except.ok (Except.ok.inj h)

/-- Steps that agree on every element agree on the list. -/
theorem mapM_congr {m : Type → Type} [Monad m] [LawfulMonad m] {xs : List α} {f g : α → m β}
    (h : ∀ x ∈ xs, f x = g x) : xs.mapM f = xs.mapM g := by
  induction xs with
  | nil => rfl
  | cons x xs ih =>
    have hxs := ih fun y hy => h y (List.mem_cons_of_mem x hy)
    rw [List.mapM_cons, List.mapM_cons, h x List.mem_cons_self, hxs]

/-- It is enough that steps agree on an element where they succeed on all in front of it. -/
theorem mapM_congr_of_ok {xs : List α} {f g : α → Except ε β}
    (h : ∀ front x back, xs = front ++ x :: back → (∀ y ∈ front, ∃ b, f y = .ok b) → f x = g x) :
    xs.mapM f = xs.mapM g := by
  induction xs with
  | nil => rfl
  | cons x xs ih =>
    have hx : f x = g x := h [] x xs rfl (by simp)
    rw [List.mapM_cons, List.mapM_cons, ← hx]
    cases hfx : f x with
    | error e => rfl
    | ok b =>
      have hxs : xs.mapM f = xs.mapM g := by
        apply ih
        intro front y back hsplit hfront
        refine h (x :: front) y back (congrArg (x :: ·) hsplit) ?_
        intro z hz
        rcases List.mem_cons.1 hz with rfl | hz
        · exact ⟨b, hfx⟩
        · exact hfront z hz
      rw [hxs]

/-! ### Failure -/

theorem eq_error_of_map_eq_error {r : Except ε α} {f : α → β} {e : ε} (h : r.map f = .error e) :
    r = .error e := by
  cases r with
  | error e' => exact congrArg Except.error (Except.error.inj h)
  | ok a => cases h

/-- Behind an error that was changed stands the error itself. -/
theorem exists_of_mapError_eq_error {r : Except ε α} {f : ε → ε'} {e : ε'}
    (h : r.mapError f = .error e) : ∃ e', r = .error e' ∧ f e' = e := by
  cases r with
  | error e' => exact ⟨e', rfl, Except.error.inj h⟩
  | ok a => cases h

variable {allowed : ε → Prop} {r : Except ε α}

/-- What comes out is an allowed error, if it is an error. -/
def FailsOnly (allowed : ε → Prop) (r : Except ε α) : Prop := ∀ e, r = .error e → allowed e

theorem failsOnly_ok (a : α) : FailsOnly allowed (.ok a) := by
  intro e h
  cases h

theorem failsOnly_error {e : ε} (h : allowed e) : FailsOnly allowed (.error e : Except ε α) := by
  intro e' he
  cases he
  exact h

namespace FailsOnly

theorem map (h : FailsOnly allowed r) (f : α → β) : FailsOnly allowed (r.map f) := by
  cases r with
  | error e => exact failsOnly_error (h e rfl)
  | ok a => exact failsOnly_ok (f a)

theorem bind {next : α → Except ε β} (h : FailsOnly allowed r)
    (hnext : ∀ a, FailsOnly allowed (next a)) : FailsOnly allowed (r >>= next) := by
  cases r with
  | error e => exact failsOnly_error (h e rfl)
  | ok a => exact hnext a

/-- A list fails as one of its elements does. -/
theorem mapM {xs : List α} {f : α → Except ε β} (h : ∀ x ∈ xs, FailsOnly allowed (f x)) :
    FailsOnly allowed (xs.mapM f) := by
  induction xs with
  | nil => exact failsOnly_ok []
  | cons x xs ih =>
    rw [List.mapM_cons]
    have hx := h x List.mem_cons_self
    have hxs := ih fun y hy => h y (List.mem_cons_of_mem x hy)
    exact hx.bind fun b => hxs.bind fun bs => failsOnly_ok (b :: bs)

/-- Errors may learn on the way out what does not matter to whether they are allowed. -/
theorem mapError {f : ε → ε} (h : FailsOnly allowed r) (hf : ∀ e, allowed e → allowed (f e)) :
    FailsOnly allowed (r.mapError f) := by
  cases r with
  | error e => exact failsOnly_error (hf e (h e rfl))
  | ok a => exact failsOnly_ok a

/-- Without allowed errors there is a result. -/
theorem exists_ok (h : FailsOnly allowed r) (hnone : ∀ e, ¬ allowed e) : ∃ a, r = .ok a := by
  cases r with
  | error e => exact absurd (h e rfl) (hnone e)
  | ok a => exact ⟨a, rfl⟩

end FailsOnly

/-- A list fails as the first of its elements that fails. -/
theorem mapM_eq_error_iff {xs : List α} {f : α → Except ε β} {e : ε} :
    xs.mapM f = .error e ↔ ∃ x, xs.find? (fun x => !(f x).isOk) = some x ∧ f x = .error e := by
  induction xs with
  | nil => exact iff_of_false (fun h => by cases h) (fun ⟨x, h, _⟩ => by cases h)
  | cons x xs ih =>
    rw [List.mapM_cons]
    cases hx : f x with
    | error e' =>
      rw [List.find?_cons_of_pos (by rw [hx]; rfl)]
      constructor
      · intro h
        cases h
        exact ⟨x, rfl, hx⟩
      · rintro ⟨y, hy, he⟩
        obtain rfl := Option.some.inj hy
        cases hx.symm.trans he
        rfl
    | ok b =>
      rw [List.find?_cons_of_neg (by rw [hx]; exact Bool.false_ne_true), ← ih]
      cases xs.mapM f with
      | error e' => exact Iff.rfl
      | ok bs => exact iff_of_false (fun h => by cases h) (fun h => by cases h)

/-! ### What success gives -/

variable {wanted : α → Prop} {wanted' : β → Prop}

/-- What comes out is wanted, if it is no error. -/
def GivesOnly (wanted : α → Prop) (r : Except ε α) : Prop := ∀ a, r = .ok a → wanted a

theorem givesOnly_ok {a : α} (h : wanted a) : GivesOnly wanted (.ok a : Except ε α) := by
  intro a' ha
  cases ha
  exact h

theorem givesOnly_error (e : ε) : GivesOnly wanted (.error e : Except ε α) := by
  intro a h
  cases h

namespace GivesOnly

theorem map {f : α → β} (h : GivesOnly wanted r) (hf : ∀ a, wanted a → wanted' (f a)) :
    GivesOnly wanted' (r.map f) := by
  cases r with
  | error e => exact givesOnly_error e
  | ok a => exact givesOnly_ok (hf a (h a rfl))

/-- The last step decides, whatever comes in front of it. -/
theorem bind {next : α → Except ε β} (h : ∀ a, GivesOnly wanted' (next a)) :
    GivesOnly wanted' (r >>= next) := by
  cases r with
  | error e => exact givesOnly_error e
  | ok a => exact h a

theorem mapError (h : GivesOnly wanted r) (f : ε → ε') : GivesOnly wanted (r.mapError f) := by
  cases r with
  | error e => exact givesOnly_error (f e)
  | ok a => exact givesOnly_ok (h a rfl)

end GivesOnly

end Phrasebook
