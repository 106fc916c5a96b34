import Phrasebook.Proofs.Locale
import Phrasebook.Proofs.Number.Decimal
import Phrasebook.Proofs.Number.Rounding

/-! # Integers match in texts as they match as numbers

    A key with a number compares integers with its own as they are. What a text says is a floating
    point number, and for it the integer of the key is rounded too. Both ways agree as long as
    rounding leaves a difference: it keeps the order, and no two integers become one if one of them
    has room in a significand. Beyond that, a text is taken for the integer of the key where it says
    one of its neighbours. -/

namespace Phrasebook

open FloatFormat

/-! ### Integers in texts -/

theorem length_decimalDigits_le {n k : Nat} (hk : 0 < k) (h : n < 10 ^ k) :
    (decimalDigits n).length ≤ k := by
  induction n using decimalDigits.induct generalizing k with
  | case1 n hn =>
    rw [decimalDigits, dif_pos hn]
    exact hk
  | case2 n hn ih =>
    obtain ⟨k, rfl⟩ : ∃ less, k = less + 1 := ⟨k - 1, by omega⟩
    have hless : 0 < k := by
      rcases Nat.eq_zero_or_pos k with rfl | hpos
      · exact absurd h hn
      · exact hpos
    rw [decimalDigits, dif_neg hn, List.length_append, List.length_singleton]
    have := ih hless (by rw [Nat.pow_succ] at h; omega)
    omega

theorem ofDecimal_decimalDigits (f : FloatFormat) (negative : Bool) {m : Nat}
    (hm : (decimalDigits m).length ≤ decimalReach.toNat) :
    f.ofDecimal negative ⟨decimalDigits m, 0⟩ = f.round negative m 1 := by
  have hreach : decimalReach = 400 := rfl
  unfold FloatFormat.ofDecimal
  rw [digitsValue_decimalDigits]
  dsimp only
  split
  · rename_i h
    rw [h]
  · rw [if_neg (by omega), if_neg (by omega), if_pos (Int.le_refl 0)]
    exact congrArg (f.round negative · 1) (Nat.mul_one m)

/-- The text of an integer is read as the number nearest to it, in every locale. -/
theorem readLocalized?_intText (locale : Locale) {n : Int}
    (hn : (decimalDigits n.natAbs).length ≤ decimalReach.toNat) :
    readLocalized? locale (intText n) = some (binary64.ofInt n) := by
  have hdigits : ∀ c ∈ decimalDigits n.natAbs, isDigit c = true :=
    fun c => isDigit_of_mem_decimalDigits
  have hplain : ∀ c ∈ decimalDigits n.natAbs, isDigit c = true ∨ c = '.' :=
    fun c hc => .inl (hdigits c hc)
  have hsign : (if n < 0 then ['-'] else []) ∈ signs := by
    split <;> decide
  have hnegative : ((if n < 0 then ['-'] else []) == ['-']) = decide (n < 0) := by
    split <;> simp [*]
  -- neither a digit nor the sign is a mark
  have hmap : (intChars n).map (pointFor locale.decimalSeparator) = intChars n := by
    obtain ⟨hmark, hmarkSign⟩ := locale.decimalSeparator_mark
    have hkeep : ∀ c ∈ decimalDigits n.natAbs, pointFor locale.decimalSeparator c = c :=
      fun c hc => if_neg (ne_of_isDigit (hdigits c hc) hmark)
    rw [intChars_eq, List.map_append, (map_pointFor_eq_iff hsign hmarkSign).2 rfl,
      List.map_congr_left hkeep, List.map_id']
  rw [readLocalized?_eq, intText, String.toList_ofList, hmap, intChars_eq, if_pos,
    read?_append hsign hplain, readDecimal?_digits hdigits (decimalDigits_ne_nil _),
    Option.map_some, ofDecimal_decimalDigits binary64 _ hn, hnegative]
  · rfl
  · rw [Bool.and_eq_true, looksDecimal_iff]
    obtain ⟨c, hc⟩ := List.exists_mem_of_ne_nil _ (decimalDigits_ne_nil n.natAbs)
    exact ⟨List.any_eq_true.2 ⟨c, List.mem_append_right _ hc, hdigits c hc⟩,
      _, hsign, _, rfl, hplain⟩

/-! ### Matching -/

/-- The nearest numbers of two integers are equal. -/
def RoundAlike (n k : Int) : Prop :=
  (binary64.ofInt n).compare? (binary64.ofInt k) = some .eq

instance (n k : Int) : Decidable (RoundAlike n k) :=
  inferInstanceAs (Decidable (_ = some Ordering.eq))

theorem natAbs_le (n : Int64) : n.toInt.natAbs ≤ 2 ^ 63 := by
  have hlow := n.le_toInt
  have hhigh := n.toInt_lt
  omega

theorem log2_natAbs_lt (n : Int64) : n.toInt.natAbs.log2 < binary64.bias := by
  have hbias : binary64.bias = 1023 := by decide
  by_cases hn : n.toInt.natAbs = 0
  · rw [hn]
    decide
  · have hle := natAbs_le n
    have hlt : n.toInt.natAbs.log2 < 64 := (Nat.log2_lt hn).2 (by omega)
    omega

theorem compare?_ofInt (n k : Int64) :
    (binary64.ofInt n.toInt).compare? (binary64.ofInt k.toInt) =
      some (compare (binary64.nearestInt n.toInt) (binary64.nearestInt k.toInt)) :=
  (isInteger_ofInt binary64 (log2_natAbs_lt n)).compare?
    (isInteger_ofInt binary64 (log2_natAbs_lt k))

theorem roundAlike_iff (n k : Int64) :
    RoundAlike n.toInt k.toInt ↔ binary64.nearestInt n.toInt = binary64.nearestInt k.toInt := by
  rw [RoundAlike, compare?_ofInt, Option.some_inj, Int.compare_eq_eq]

/-- An equal number is a match as well as one on the right side. -/
theorem isMatch_compareStrength {identical : Strength} (h : identical.isMatch = true)
    (relation : Comparator) (order : Ordering) :
    (compareStrength relation identical order).isMatch = relation.holds order := by
  unfold compareStrength
  cases relation.holds order with
  | false => rfl
  | true =>
    by_cases heq : order = .eq
    · simpa [heq] using h
    · have hlenient : Strength.lenient.isMatch = true := rfl
      simpa [heq] using hlenient

theorem isMatch_integer (context : MatchContext) (relation : Comparator) (n key : Int64) :
    (matchKey context (.integer .i64 n) (.number relation key)).isMatch =
      relation.holds (compare n.toInt key.toInt) :=
  isMatch_compareStrength rfl relation _

/-- A text matches by what its integer and that of the key are rounded to. -/
theorem isMatch_intText (context : MatchContext) (relation : Comparator) (n key : Int64) :
    (matchKey context (.string (intText n.toInt)) (.number relation key)).isMatch =
      relation.holds
        (compare (binary64.nearestInt n.toInt) (binary64.nearestInt key.toInt)) := by
  have htrim : trimBlank (intText n.toInt) = intText n.toInt := by
    rw [trimBlank, intText, String.toList_ofList,
      strip_eq_self fun c hc => isWhitespace_of_mem_intChars hc]
  have hlength : (decimalDigits n.toInt.natAbs).length ≤ decimalReach.toNat := by
    have hle := natAbs_le n
    have := length_decimalDigits_le (n := n.toInt.natAbs) (k := 19) (by decide) (by omega)
    exact Nat.le_trans this (by decide)
  rw [← isMatch_compareStrength (show Strength.lenient.isMatch = true from rfl)]
  show (matchNumber relation key context.locale (.string (intText n.toInt))).isMatch = _
  unfold matchNumber
  simp only [Value.integer?, Value.float?, Value.text?, htrim,
    readLocalized?_intText context.locale hlength, Option.bind_some, compare?_ofInt]

/-- The digits of an integer match a key like the integer itself, unless they differ from the key
    without a difference between the nearest numbers. Then they match as if they were the key. One
    integer with room in a significand is enough for a difference. -/
theorem intText_matches_like_integer (context : MatchContext) (relation : Comparator)
    (n key : Int64) :
    let Matches (value : Value) := (matchKey context value (.number relation key)).isMatch = true
    (n = key ∨ ¬ RoundAlike n.toInt key.toInt →
      (Matches (.string (intText n.toInt)) ↔ Matches (.integer .i64 n))) ∧
    (n ≠ key → RoundAlike n.toInt key.toInt →
      (Matches (.string (intText n.toInt)) ↔ Matches (.integer .i64 key))) ∧
    (n.toInt.natAbs < 2 ^ 53 ∨ key.toInt.natAbs < 2 ^ 53 →
      n = key ∨ ¬ RoundAlike n.toInt key.toInt) := by
  intro Matches
  refine ⟨fun h => ?_, fun hne h => ?_, fun h => ?_⟩
  · rw [roundAlike_iff] at h
    have hcompare := binary64.compare_nearestInt (h.imp_left (congrArg Int64.toInt))
    show _ = true ↔ _ = true
    rw [isMatch_intText, isMatch_integer, hcompare]
  · rw [roundAlike_iff] at h
    show _ = true ↔ _ = true
    rw [isMatch_intText, isMatch_integer, h, Int.compare_eq_eq.2 rfl, Int.compare_eq_eq.2 rfl]
  · rw [roundAlike_iff]
    by_cases heq : binary64.nearestInt n.toInt = binary64.nearestInt key.toInt
    · refine .inl (Int64.toInt_inj.1 ?_)
      rcases h with h | h
      · exact binary64.eq_of_nearestInt_eq h heq
      · exact (binary64.eq_of_nearestInt_eq h heq.symm).symm
    · exact .inr heq

/-- What follows `2 ^ 53` has no room in a significand and is rounded down to it, which is a
    difference from what follows next. -/
theorem intText_matches_beyond_significand :
    let limit : Int64 := 9007199254740992
    let text := Value.string (intText (limit + 1).toInt)
    let Matches (key : Int64) (value : Value) :=
      (matchKey (.ofLocale .root) value (.number .eq key)).isMatch = true
    (¬ RoundAlike (limit + 1).toInt (limit + 2).toInt ∧
      (Matches (limit + 2) text ↔ Matches (limit + 2) (.integer .i64 (limit + 1)))) ∧
    (limit + 1 ≠ limit ∧ RoundAlike (limit + 1).toInt limit.toInt ∧
      (Matches limit text ↔ Matches limit (.integer .i64 limit))) ∧
    (limit - 1).toInt.natAbs < 2 ^ 53 ∧
      (limit - 1 = limit ∨ ¬ RoundAlike (limit - 1).toInt limit.toInt) := by
  intro limit text Matches
  have hnext : ¬ RoundAlike (limit + 1).toInt (limit + 2).toInt := by decide +kernel
  have halike : RoundAlike (limit + 1).toInt limit.toInt := by decide +kernel
  have hne : limit + 1 ≠ limit := by decide
  have hroom : (limit - 1).toInt.natAbs < 2 ^ 53 := by decide
  refine ⟨⟨hnext, ?_⟩, ⟨hne, halike, ?_⟩, hroom, ?_⟩
  · exact (intText_matches_like_integer _ _ _ _).1 (.inr hnext)
  · exact (intText_matches_like_integer _ _ _ _).2.1 hne halike
  · exact (intText_matches_like_integer (.ofLocale .root) .eq _ _).2.2 (.inl hroom)

/-- So the digits of an integer match a key that the integer does not match. -/
theorem intText_matches_neighbour :
    let key : Int64 := 9007199254740992
    let Matches (value : Value) :=
      (matchKey (.ofLocale .root) value (.number .eq key)).isMatch = true
    ¬ (Matches (.string (intText (key + 1).toInt)) ↔ Matches (.integer .i64 (key + 1))) := by
  decide +kernel

end Phrasebook
