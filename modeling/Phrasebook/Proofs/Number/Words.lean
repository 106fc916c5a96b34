import Phrasebook.Number.DecimalText
import Phrasebook.Proofs.Number.Decimal

/-! # Words that are numbers

    A text without digits is no number in decimal notation, and no integer. Yet some are read as
    numbers: those that spell an infinity, or that there is no number, in any case of letters and
    behind an optional sign. These are all (`spells_of_read?`). -/

namespace Phrasebook

/-! ### Spellings -/

/-- The text is one of the signs and one of the words, in any case of letters. -/
def Spells (signs : List (List Char)) (words : List String) (cs : List Char) : Prop :=
  ∃ sign ∈ signs, ∃ word ∈ words, ∃ body, cs = sign ++ body ∧
    eqIgnoringAsciiCase (String.ofList body) word = true

/-- Behind each of the signs one word has to be compared with each of the words. -/
instance (signs : List (List Char)) (words : List String) (cs : List Char) :
    Decidable (Spells signs words cs) :=
  decidable_of_iff (∃ sign ∈ signs, ∃ word ∈ words, sign <+: cs ∧
      eqIgnoringAsciiCase (String.ofList (cs.drop sign.length)) word = true) <| by
    constructor
    · rintro ⟨sign, hsign, word, hword, ⟨body, rfl⟩, hbody⟩
      rw [List.drop_left] at hbody
      exact ⟨sign, hsign, word, hword, body, rfl, hbody⟩
    · rintro ⟨sign, hsign, word, hword, body, rfl, hbody⟩
      refine ⟨sign, hsign, word, hword, List.prefix_append sign body, ?_⟩
      rw [List.drop_left]
      exact hbody

/-- The words for what is beyond all numbers. -/
def infinityWords : List String := ["inf", "infinity"]

/-- The words for what is no number. -/
def nanWords : List String := ["nan"]

/-- The signs of a number that is negative, or of one that is not. -/
def signsOf (negative : Bool) : List (List Char) := if negative then [['-']] else [[], ['+']]

theorem signsOf_subset (negative : Bool) : signsOf negative ⊆ signs := by
  cases negative <;> simp [signsOf, signs]

theorem toLower_of_eqIgnoringAsciiCase {cs : List Char} {word : String}
    (h : eqIgnoringAsciiCase (String.ofList cs) word = true) :
    cs.map Char.toLower = word.toList.map Char.toLower := by
  rw [eqIgnoringAsciiCase, String.toList_ofList] at h
  exact beq_iff_eq.1 h

/-- A text that is a word up to case is no other word. -/
theorem eqIgnoringAsciiCase_eq_false {cs : List Char} {word : String} (other : String)
    (h : eqIgnoringAsciiCase (String.ofList cs) word = true)
    (hne : word.toList.map Char.toLower ≠ other.toList.map Char.toLower) :
    eqIgnoringAsciiCase (String.ofList cs) other = false := by
  rw [eqIgnoringAsciiCase, String.toList_ofList, toLower_of_eqIgnoringAsciiCase h]
  exact beq_false_of_ne hne

section Reading

variable {cs : List Char} {f : FloatFormat}

/-- A word begins with a letter. -/
theorem head_of_word {word : String} (hword : word ∈ infinityWords ++ nanWords)
    (h : eqIgnoringAsciiCase (String.ofList cs) word = true) :
    ∃ c rest, cs = c :: rest ∧ c ≠ '+' ∧ c ≠ '-' := by
  have hlower := toLower_of_eqIgnoringAsciiCase h
  have hfirst : ∃ d rest, word.toList.map Char.toLower = d :: rest ∧ d ≠ '+' ∧ d ≠ '-' := by
    simp only [infinityWords, nanWords, List.cons_append, List.nil_append, List.mem_cons,
      List.not_mem_nil, or_false] at hword
    rcases hword with rfl | rfl | rfl <;> exact ⟨_, _, rfl, by decide, by decide⟩
  obtain ⟨d, rest, hd, hplus, hminus⟩ := hfirst
  rw [hd] at hlower
  obtain ⟨c, rest', rfl, rfl, -⟩ := List.map_eq_cons_iff.1 hlower
  refine ⟨c, rest', rfl, ?_, ?_⟩
  · rintro rfl
    exact hplus rfl
  · rintro rfl
    exact hminus rfl

/-- A sign in front of a word is the sign of what it says. -/
theorem read?_sign_word {sign : List Char} (hsign : sign ∈ signs) {word : String}
    (hword : word ∈ infinityWords ++ nanWords)
    (h : eqIgnoringAsciiCase (String.ofList cs) word = true) :
    f.read? (sign ++ cs) = f.readUnsigned? (sign == ['-']) cs := by
  simp only [signs, List.mem_cons, List.not_mem_nil, or_false] at hsign
  rcases hsign with rfl | rfl | rfl
  · obtain ⟨c, rest, rfl, hplus, hminus⟩ := head_of_word hword h
    rw [List.nil_append, FloatFormat.read?.eq_def]
    split
    · rename_i hcons
      exact absurd (List.cons.inj hcons).1 hplus
    · rename_i hcons
      exact absurd (List.cons.inj hcons).1 hminus
    · rfl
  · rfl
  · rfl

theorem read?_of_spells_infinity {negative : Bool} (h : Spells (signsOf negative) infinityWords cs) :
    f.read? cs = some (.infinite negative) := by
  obtain ⟨sign, hsign, word, hword, body, rfl, hbody⟩ := h
  have hnegative : (sign == ['-']) = negative := by
    cases negative <;> simp only [signsOf, Bool.false_eq_true, if_true, if_false, List.mem_cons,
      List.not_mem_nil, or_false] at hsign
    · rcases hsign with rfl | rfl <;> rfl
    · rw [hsign]
      rfl
  rw [read?_sign_word (signsOf_subset negative hsign) (List.mem_append_left _ hword) hbody,
    hnegative, FloatFormat.readUnsigned?]
  simp only [infinityWords, List.mem_cons, List.not_mem_nil, or_false] at hword
  rcases hword with rfl | rfl <;> simp only [hbody, Bool.true_or, Bool.or_true, if_true]

theorem read?_of_spells_nan (h : Spells signs nanWords cs) : f.read? cs = some .nan := by
  obtain ⟨sign, hsign, word, hword, body, rfl, hbody⟩ := h
  rw [read?_sign_word hsign (List.mem_append_right _ hword) hbody, FloatFormat.readUnsigned?]
  obtain rfl := List.mem_singleton.1 hword
  -- the words for infinities are looked for first
  have hinf := eqIgnoringAsciiCase_eq_false "inf" hbody (by decide)
  have hinfinity := eqIgnoringAsciiCase_eq_false "infinity" hbody (by decide)
  simp only [hinf, hinfinity, hbody, Bool.or_self, Bool.false_eq_true, if_false, if_true]

/-! ### Texts without digits -/

theorem isDigit_of_any_eq_false (h : cs.any isDigit = false) : ∀ c ∈ cs, isDigit c = false := by
  simpa using h

theorem readInt64?_of_forall (h : ∀ c ∈ cs, isDigit c = false) : readInt64? cs = none := by
  have hdigits {negative : Bool} {ds : List Char} (hds : ∀ c ∈ ds, isDigit c = false) :
      readDigits? negative ds = none := by
    cases ds with
    | nil => rfl
    | cons d ds =>
      rw [readDigits?, List.all_cons, hds d List.mem_cons_self]
      rfl
  unfold readInt64?
  split
  · exact hdigits fun c hc => h c (List.mem_cons_of_mem _ hc)
  · exact hdigits fun c hc => h c (List.mem_cons_of_mem _ hc)
  · exact hdigits h

theorem readDecimal?_of_forall (h : ∀ c ∈ cs, isDigit c = false) : readDecimal? cs = none := by
  have hspan {ds : List Char} (hds : ∀ c ∈ ds, isDigit c = false) :
      ds.takeWhile isDigit = [] ∧ ds.dropWhile isDigit = ds := by
    have hnone : ∀ c ∈ ([] : List Char), isDigit c = true := by simp
    exact span_digits hnone ds fun c hc => hds c (List.mem_of_mem_head? hc)
  unfold readDecimal?
  rw [(hspan h).1, (hspan h).2]
  dsimp only
  split
  · -- behind a point there are no digits either
    rename_i rest
    rw [(hspan fun c hc => h c (List.mem_cons_of_mem _ hc)).1]
    rfl
  · rfl

/-- A text without digits that is read as a number is one of the words for infinities, or that for
    what is no number. -/
theorem spells_of_read? (h : ∀ c ∈ cs, isDigit c = false) {number : Floating}
    (hr : f.read? cs = some number) : Spells signs (infinityWords ++ nanWords) cs := by
  have hunsigned {negative : Bool} {body : List Char} (hbody : ∀ c ∈ body, isDigit c = false)
      (hread : f.readUnsigned? negative body = some number) :
      ∃ word ∈ infinityWords ++ nanWords, eqIgnoringAsciiCase (String.ofList body) word = true := by
    rw [FloatFormat.readUnsigned?, readDecimal?_of_forall hbody] at hread
    split at hread
    · rename_i hinfinity
      rcases Bool.or_eq_true_iff.1 hinfinity with hinf | hinfinity
      · exact ⟨_, by decide, hinf⟩
      · exact ⟨_, by decide, hinfinity⟩
    · split at hread
      · rename_i hnan
        exact ⟨_, by decide, hnan⟩
      · cases hread
  -- the same words are looked for behind either sign and without one
  unfold FloatFormat.read? at hr
  split at hr
  · obtain ⟨word, hword, hbody⟩ := hunsigned (fun c hc => h c (List.mem_cons_of_mem _ hc)) hr
    exact ⟨['+'], by decide, word, hword, _, rfl, hbody⟩
  · obtain ⟨word, hword, hbody⟩ := hunsigned (fun c hc => h c (List.mem_cons_of_mem _ hc)) hr
    exact ⟨['-'], by decide, word, hword, _, rfl, hbody⟩
  · obtain ⟨word, hword, hbody⟩ := hunsigned h hr
    exact ⟨[], by decide, word, hword, _, rfl, hbody⟩

end Reading

end Phrasebook
