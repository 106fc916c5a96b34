import Mathlib.Algebra.Order.Ring.Int
import Mathlib.Tactic.Ring
import Phrasebook.Number.Floating

/-! # Integers and the floating point numbers nearest to them

    The number of a format that is nearest to an integer is an integer again, `nearestInt`. Rounding
    keeps the order, and it keeps integers that the significand has room for. So the order of the
    nearest numbers is that of the integers, except that neighbours may become equal. -/

namespace Phrasebook

namespace FloatFormat

/-! ### Quotients -/

section Quotients

variable {m n d q : Nat}

@[simp] theorem roundQuotient_one (m : Nat) : roundQuotient m 1 = m := by
  simp [roundQuotient, Nat.mod_one]

theorem div_le_roundQuotient (m d : Nat) : m / d ≤ roundQuotient m d := by
  unfold roundQuotient
  dsimp only
  split
  · exact Nat.le_refl _
  · exact Nat.le_succ _

theorem roundQuotient_le (m d : Nat) : roundQuotient m d ≤ m / d + 1 := by
  unfold roundQuotient
  dsimp only
  split
  · exact Nat.le_succ _
  · exact Nat.le_refl _

theorem roundQuotient_mono (h : m ≤ n) (d : Nat) : roundQuotient m d ≤ roundQuotient n d := by
  rcases Nat.lt_or_eq_of_le (Nat.div_le_div_right h : m / d ≤ n / d) with hlt | heq
  · calc roundQuotient m d ≤ m / d + 1 := roundQuotient_le m d
      _ ≤ n / d := hlt
      _ ≤ roundQuotient n d := div_le_roundQuotient n d
  · -- between the same multiples the remainders are in order, so the greater one is the first up
    have hm := Nat.div_add_mod m d
    have hn := Nat.div_add_mod n d
    rw [heq] at hm
    have hmod : m % d ≤ n % d := by omega
    unfold roundQuotient
    rw [heq]
    dsimp only
    split <;> split <;> omega

end Quotients

/-! ### Natural numbers -/

section Naturals

variable (f : FloatFormat) {m n : Nat}

/-- The place value of the last bit of a significand for the number. -/
def lastPlace (m : Nat) : Nat := 2 ^ (m.log2 - f.fractionBits)

/-- The natural number to which a natural number is rounded. -/
def nearestNat (m : Nat) : Nat := roundQuotient m (f.lastPlace m) * f.lastPlace m

theorem nearestNat_of_lt (h : m < 2 ^ (f.fractionBits + 1)) : f.nearestNat m = m := by
  have hlog : m.log2 ≤ f.fractionBits := by
    by_cases hm : m = 0
    · subst hm
      exact Nat.zero_le _
    · have := (Nat.log2_lt hm).2 h
      omega
  have hplace : f.lastPlace m = 1 := by
    rw [lastPlace, Nat.sub_eq_zero_of_le hlog, Nat.pow_zero]
  rw [nearestNat, hplace, roundQuotient_one, Nat.mul_one]

/-- The last place divides the powers of two on both sides of a number. -/
theorem two_pow_eq_mul_lastPlace {k : Nat} (h : m.log2 ≤ k) :
    2 ^ k = 2 ^ (k - (m.log2 - f.fractionBits)) * f.lastPlace m := by
  rw [lastPlace, ← Nat.pow_add]
  congr 1
  omega

theorem lastPlace_pos (m : Nat) : 0 < f.lastPlace m := Nat.two_pow_pos _

theorem two_pow_le_nearestNat (hm : m ≠ 0) : 2 ^ m.log2 ≤ f.nearestNat m := by
  rw [f.two_pow_eq_mul_lastPlace (Nat.le_refl m.log2), nearestNat]
  refine Nat.mul_le_mul_right _ (Nat.le_trans ?_ (div_le_roundQuotient m _))
  rw [Nat.le_div_iff_mul_le (f.lastPlace_pos m),
    ← f.two_pow_eq_mul_lastPlace (Nat.le_refl m.log2)]
  exact Nat.log2_self_le hm

theorem nearestNat_le_two_pow (m : Nat) : f.nearestNat m ≤ 2 ^ (m.log2 + 1) := by
  rw [f.two_pow_eq_mul_lastPlace (Nat.le_succ m.log2), nearestNat]
  refine Nat.mul_le_mul_right _ (Nat.le_trans (roundQuotient_le m _) ?_)
  rw [Nat.succ_le_iff, Nat.div_lt_iff_lt_mul (f.lastPlace_pos m),
    ← f.two_pow_eq_mul_lastPlace (Nat.le_succ m.log2)]
  exact Nat.lt_log2_self

theorem nearestNat_mono (h : m ≤ n) : f.nearestNat m ≤ f.nearestNat n := by
  by_cases hm : m = 0
  · subst hm
    rw [nearestNat_of_lt f (Nat.two_pow_pos _)]
    exact Nat.zero_le _
  have hn : n ≠ 0 := by omega
  have hlog : m.log2 ≤ n.log2 := (Nat.le_log2 hn).2 (Nat.le_trans (Nat.log2_self_le hm) h)
  rcases Nat.lt_or_eq_of_le hlog with hlt | heq
  · -- a power of two lies between the results
    calc f.nearestNat m ≤ 2 ^ (m.log2 + 1) := f.nearestNat_le_two_pow m
      _ ≤ 2 ^ n.log2 := Nat.pow_le_pow_right Nat.two_pos hlt
      _ ≤ f.nearestNat n := f.two_pow_le_nearestNat hn
  · have hplace : f.lastPlace m = f.lastPlace n := by rw [lastPlace, lastPlace, heq]
    rw [nearestNat, nearestNat, hplace]
    exact Nat.mul_le_mul_right _ (roundQuotient_mono h _)

end Naturals

/-! ### Integers -/

section Integers

variable (f : FloatFormat) {k n : Int}

/-- The integer to which an integer is rounded. -/
def nearestInt (n : Int) : Int :=
  if n < 0 then -(f.nearestNat n.natAbs : Int) else f.nearestNat n.natAbs

theorem nearestInt_mono (h : k ≤ n) : f.nearestInt k ≤ f.nearestInt n := by
  unfold nearestInt
  split <;> split
  · have := f.nearestNat_mono (m := n.natAbs) (n := k.natAbs) (by omega)
    omega
  · omega
  · omega
  · have := f.nearestNat_mono (m := k.natAbs) (n := n.natAbs) (by omega)
    omega

theorem nearestInt_of_lt (h : n.natAbs < 2 ^ (f.fractionBits + 1)) : f.nearestInt n = n := by
  rw [nearestInt, f.nearestNat_of_lt h]
  omega

/-- An integer that the significand has room for shares its nearest number with no other one. -/
theorem eq_of_nearestInt_eq (hn : n.natAbs < 2 ^ (f.fractionBits + 1))
    (h : f.nearestInt n = f.nearestInt k) : n = k := by
  by_cases hk : k.natAbs < 2 ^ (f.fractionBits + 1)
  · rwa [f.nearestInt_of_lt hn, f.nearestInt_of_lt hk] at h
  · -- a greater one is rounded to a greater one
    exfalso
    have hne : k.natAbs ≠ 0 := by
      have := Nat.two_pow_pos (f.fractionBits + 1)
      omega
    have hlog : f.fractionBits + 1 ≤ k.natAbs.log2 := (Nat.le_log2 hne).2 (Nat.not_lt.1 hk)
    have hle : 2 ^ (f.fractionBits + 1) ≤ f.nearestNat k.natAbs :=
      Nat.le_trans (Nat.pow_le_pow_right Nat.two_pos hlog) (f.two_pow_le_nearestNat hne)
    rw [f.nearestInt_of_lt hn] at h
    unfold nearestInt at h
    split at h <;> omega

/-- Different integers are in the order of their nearest numbers, unless these are the same. -/
theorem compare_nearestInt (h : n = k ∨ f.nearestInt n ≠ f.nearestInt k) :
    compare (f.nearestInt n) (f.nearestInt k) = compare n k := by
  rcases Int.lt_trichotomy n k with hlt | rfl | hgt
  · have hle := f.nearestInt_mono (Int.le_of_lt hlt)
    rw [Int.compare_eq_lt.2 hlt, Int.compare_eq_lt]
    omega
  · rw [Int.compare_eq_eq.2 rfl, Int.compare_eq_eq.2 rfl]
  · have hle := f.nearestInt_mono (Int.le_of_lt hgt)
    rw [Int.compare_eq_gt.2 hgt, Int.compare_eq_gt]
    omega

end Integers

end FloatFormat

/-! ### Values of floating point numbers -/

namespace Floating

variable {x y : Floating} {v w : Int}

/-- A floating point number is an integer. -/
def IsInteger : Floating → Int → Prop
  | finite negative significand exponent, v =>
    ∀ unit ≤ min exponent 0,
      inUnits unit negative significand exponent = v * ((2 ^ (-unit).toNat : Nat) : Int)
  | _, _ => False

theorem inUnits_of_le {unit unit' exponent : Int} (h : unit' ≤ unit) (hunit : unit ≤ exponent)
    (negative : Bool) (significand : Nat) :
    inUnits unit' negative significand exponent =
      inUnits unit negative significand exponent * ((2 ^ (unit - unit').toNat : Nat) : Int) := by
  have hexp : (exponent - unit').toNat = (exponent - unit).toNat + (unit - unit').toNat := by omega
  have hshift : significand <<< (exponent - unit').toNat =
      significand <<< (exponent - unit).toNat * 2 ^ (unit - unit').toNat := by
    rw [Nat.shiftLeft_eq, Nat.shiftLeft_eq, hexp, Nat.pow_add, Nat.mul_assoc]
  unfold inUnits
  rw [hshift]
  cases negative <;> push_cast <;> simp

theorem compare_mul_right {c : Int} (hc : 0 < c) (v w : Int) :
    compare (v * c) (w * c) = compare v w := by
  rcases Int.lt_trichotomy v w with h | rfl | h
  · rw [Int.compare_eq_lt.2 h, Int.compare_eq_lt.2 (Int.mul_lt_mul_of_pos_right h hc)]
  · rw [Int.compare_eq_eq.2 rfl, Int.compare_eq_eq.2 rfl]
  · rw [Int.compare_eq_gt.2 h, Int.compare_eq_gt.2 (Int.mul_lt_mul_of_pos_right h hc)]

/-- Numbers that are integers are in the order of the integers. -/
theorem IsInteger.compare? (hx : x.IsInteger v) (hy : y.IsInteger w) :
    x.compare? y = some (compare v w) := by
  cases x with
  | nan | infinite => cases hx
  | finite a m d =>
    cases y with
    | nan | infinite => cases hy
    | finite b n e =>
      -- the unit of the comparison may be greater than one, so both are compared in a smaller one
      have hpow (k : Nat) : 0 < ((2 ^ k : Nat) : Int) := by exact_mod_cast Nat.two_pow_pos k
      have hd := inUnits_of_le (Int.min_le_left (min d e) 0) (Int.min_le_left d e) a m
      have he := inUnits_of_le (Int.min_le_left (min d e) 0) (Int.min_le_right d e) b n
      rw [hx _ (by omega)] at hd
      rw [hy _ (by omega)] at he
      rw [Floating.compare?, ← compare_mul_right (hpow (min d e - min (min d e) 0).toNat), ← hd,
        ← he, compare_mul_right (hpow _)]

/-- A significand that is moved to the left or to the right is a natural number. -/
theorem isInteger_finite {significand m : Nat} {exponent : Int}
    (h : significand * 2 ^ exponent.toNat = m * 2 ^ (-exponent).toNat) (negative : Bool) :
    (finite negative significand exponent).IsInteger (if negative then -(m : Int) else m) := by
  intro unit hunit
  have hshift : significand <<< (exponent - unit).toNat = m * 2 ^ (-unit).toNat := by
    rw [Nat.shiftLeft_eq]
    rcases Int.le_total 0 exponent with hexp | hexp
    · rw [show (exponent - unit).toNat = exponent.toNat + (-unit).toNat by omega, Nat.pow_add,
        ← Nat.mul_assoc, h, show (-exponent).toNat = 0 by omega, Nat.pow_zero, Nat.mul_one]
    · rw [show (-unit).toNat = (-exponent).toNat + (exponent - unit).toNat by omega, Nat.pow_add,
        ← Nat.mul_assoc, ← h, show exponent.toNat = 0 by omega, Nat.pow_zero, Nat.mul_one]
  unfold inUnits
  rw [hshift]
  cases negative <;> push_cast <;> simp

end Floating

namespace FloatFormat

/-! ### Rounding integers -/

section Rounding

variable (f : FloatFormat) {m : Nat}

theorem exponentFor_one (hm : m ≠ 0) (hbias : 0 < f.bias) :
    f.exponentFor m 1 = (m.log2 : Int) - f.fractionBits := by
  -- the lower one of the two candidates has room for one bit more than there is
  have hfull : 2 * f.leastNormal ≤
      if 0 ≤ (m.log2 : Int) - (1 : Nat).log2 - f.fractionBits - 1 then
        m / (1 <<< ((m.log2 : Int) - (1 : Nat).log2 - f.fractionBits - 1).toNat)
      else (m <<< (-((m.log2 : Int) - (1 : Nat).log2 - f.fractionBits - 1)).toNat) / 1 := by
    have hself := Nat.log2_self_le hm
    have hone : (1 : Nat).log2 = 0 := by decide
    rw [hone, leastNormal, Nat.one_shiftLeft, ← Nat.pow_succ']
    split
    · rename_i hlow
      rw [Nat.one_shiftLeft, Nat.le_div_iff_mul_le (Nat.two_pow_pos _), ← Nat.pow_add]
      refine Nat.le_trans (Nat.pow_le_pow_right Nat.two_pos ?_) hself
      omega
    · rename_i hlow
      rw [Nat.div_one, Nat.shiftLeft_eq]
      refine Nat.le_trans ?_ (Nat.mul_le_mul_right _ hself)
      rw [← Nat.pow_add]
      refine Nat.pow_le_pow_right Nat.two_pos ?_
      omega
  have hone : (1 : Nat).log2 = 0 := by decide
  unfold exponentFor
  dsimp only
  rw [if_neg (Nat.not_lt.2 hfull), hone, minExponent]
  omega

theorem scaledQuotient_one (m : Nat) :
    scaledQuotient m 1 ((m.log2 : Int) - f.fractionBits) *
        2 ^ ((m.log2 : Int) - f.fractionBits).toNat =
      f.nearestNat m * 2 ^ (-((m.log2 : Int) - f.fractionBits)).toNat := by
  unfold scaledQuotient nearestNat lastPlace
  split
  · rename_i hexp
    rw [show ((m.log2 : Int) - f.fractionBits).toNat = m.log2 - f.fractionBits by omega,
      show (-((m.log2 : Int) - f.fractionBits)).toNat = 0 by omega, Nat.one_shiftLeft,
      Nat.pow_zero, Nat.mul_one]
  · rename_i hexp
    rw [show ((m.log2 : Int) - f.fractionBits).toNat = 0 by omega,
      show m.log2 - f.fractionBits = 0 by omega, Nat.pow_zero, Nat.mul_one, Nat.mul_one,
      roundQuotient_one, roundQuotient_one, Nat.shiftLeft_eq]

/-- A natural number in the range of the format is rounded to a natural number. -/
theorem isInteger_round (hm : m.log2 < f.bias) (negative : Bool) :
    (f.round negative m 1).IsInteger
      (if negative then -(f.nearestNat m : Int) else f.nearestNat m) := by
  by_cases hzero : m = 0
  · subst hzero
    have hnearest : f.nearestNat 0 = 0 := f.nearestNat_of_lt (Nat.two_pow_pos _)
    rw [round, if_pos rfl, hnearest]
    exact Floating.isInteger_finite (by rw [Nat.zero_mul, Nat.zero_mul]) negative
  have hbias : 0 < f.bias := by omega
  have hscaled := f.scaledQuotient_one m
  unfold round
  rw [if_neg hzero, f.exponentFor_one hzero hbias]
  generalize hexp : (m.log2 : Int) - f.fractionBits = exponent at hscaled
  have hrange : exponent + 1 ≤ f.maxExponent := by
    rw [maxExponent]
    omega
  dsimp only
  by_cases hcarry : scaledQuotient m 1 exponent = 2 * f.leastNormal
  · -- the carry moves the significand one place to the right
    rw [if_pos hcarry]
    dsimp only
    rw [if_neg (by omega)]
    refine Floating.isInteger_finite ?_ negative
    rw [hcarry] at hscaled
    rcases Int.lt_or_le exponent 0 with hneg | hpos
    · rw [show exponent.toNat = 0 by omega,
        show (-exponent).toNat = (-(exponent + 1)).toNat + 1 by omega, Nat.pow_succ,
        ← Nat.mul_assoc] at hscaled
      rw [show (exponent + 1).toNat = 0 by omega]
      omega
    · rw [show (-exponent).toNat = 0 by omega] at hscaled
      rw [show (exponent + 1).toNat = exponent.toNat + 1 by omega, Nat.pow_succ,
        show (-(exponent + 1)).toNat = 0 by omega, ← hscaled]
      ring
  · rw [if_neg hcarry]
    dsimp only
    rw [if_neg (by omega)]
    exact Floating.isInteger_finite hscaled negative

theorem isInteger_ofInt {n : Int} (hn : n.natAbs.log2 < f.bias) :
    (f.ofInt n).IsInteger (f.nearestInt n) := by
  have h := f.isInteger_round hn (decide (n < 0))
  simp only [decide_eq_true_eq] at h
  exact h

end Rounding

end FloatFormat

end Phrasebook
