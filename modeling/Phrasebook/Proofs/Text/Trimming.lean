import Phrasebook.Rendering.Lists

/-! # Texts without spaces around them

    Whatever drops the characters of a class from the ends of a text leaves none of them there. So
    fragments that are made of a text, joined items and clipped texts have no spaces around them. -/

namespace Phrasebook

/-! ### Characters at the ends -/

/-- No character of the class stands at either end. -/
structure Trimmed (p : Char → Bool) (cs : List Char) : Prop where
  /-- The first character is none of the class. -/
  first : ∀ c ∈ cs.head?, p c = false
  /-- The last character is none of the class. -/
  last : ∀ c ∈ cs.getLast?, p c = false

variable {p q : Char → Bool} {cs ds : List Char}

theorem trimmed_nil : Trimmed p [] := by
  constructor
  · intro c hc
    cases hc
  · intro c hc
    cases hc

theorem Trimmed.mono (h : Trimmed p cs) (hpq : ∀ c, q c = true → p c = true) : Trimmed q cs := by
  have hq : ∀ c, p c = false → q c = false := by
    intro c hc
    cases hqc : q c with
    | false => rfl
    | true =>
      rw [hpq c hqc] at hc
      cases hc
  constructor
  · intro c hc
    exact hq c (h.first c hc)
  · intro c hc
    exact hq c (h.last c hc)

theorem head?_of_isPrefix (h : cs <+: ds) {c : Char} (hc : c ∈ cs.head?) : c ∈ ds.head? := by
  obtain ⟨rest, rfl⟩ := h
  cases cs with
  | nil => cases hc
  | cons d cs => exact hc

theorem not_of_mem_head?_dropWhile {c : Char} (hc : c ∈ (cs.dropWhile p).head?) : p c = false := by
  have h := List.head?_dropWhile_not p cs
  rw [Option.mem_def.1 hc] at h
  simpa using h

theorem dropEndWhile_isPrefix (p : Char → Bool) (cs : List Char) : dropEndWhile p cs <+: cs := by
  have h := List.dropWhile_suffix p (l := cs.reverse)
  rwa [← List.reverse_prefix, List.reverse_reverse] at h

theorem trimmed_strip (p : Char → Bool) (cs : List Char) : Trimmed p (strip p cs) := by
  constructor
  · intro c hc
    exact not_of_mem_head?_dropWhile (head?_of_isPrefix (dropEndWhile_isPrefix p _) hc)
  · intro c hc
    rw [strip, dropEndWhile, List.getLast?_reverse] at hc
    exact not_of_mem_head?_dropWhile hc

theorem dropWhile_eq_of_head? (h : ∀ c ∈ cs.head?, p c = false) : cs.dropWhile p = cs := by
  cases cs with
  | nil => rfl
  | cons c cs =>
    have hc := h c rfl
    rw [List.dropWhile_cons_of_neg (by simp [hc])]

/-- There is nothing to drop. -/
theorem Trimmed.strip_eq (h : Trimmed p cs) : strip p cs = cs := by
  have hback : ∀ c ∈ cs.reverse.head?, p c = false := by
    intro c hc
    rw [List.head?_reverse] at hc
    exact h.last c hc
  rw [strip, dropWhile_eq_of_head? h.first, dropEndWhile, dropWhile_eq_of_head? hback,
    List.reverse_reverse]

/-- What stands between two texts does not show at the ends. -/
theorem Trimmed.append {between : List Char} (h : Trimmed p cs) (h' : Trimmed p ds)
    (hcs : cs ≠ []) (hds : ds ≠ []) : Trimmed p (cs ++ between ++ ds) := by
  constructor
  · intro c hc
    obtain ⟨first, rest, rfl⟩ := List.exists_cons_of_ne_nil hcs
    exact h.first c hc
  · intro c hc
    rw [List.getLast?_append, List.getLast?_eq_some_getLast hds] at hc
    exact h'.last c (List.getLast?_eq_some_getLast hds ▸ hc)

/-! ### Texts -/

/-- Neither end of the text is a space. -/
def Unspaced (text : String) : Prop := Trimmed isSpaceChar text.toList

theorem unspaced_empty : Unspaced "" := trimmed_nil

theorem Unspaced.trimSpaces_eq {text : String} (h : Unspaced text) : trimSpaces text = text := by
  rw [trimSpaces, Trimmed.strip_eq h, String.ofList_toList]

theorem unspaced_trimSpaces (text : String) : Unspaced (trimSpaces text) := by
  unfold Unspaced trimSpaces
  rw [String.toList_ofList]
  exact trimmed_strip isSpaceChar text.toList

namespace Fragment

theorem unspaced_text_unspaced (text : String) : Unspaced (unspaced text).text :=
  unspaced_trimSpaces text

theorem unspaced_text_spaced (text : String) : Unspaced (spaced text).text := by
  unfold spaced
  by_cases hempty : (trimSpaces text).isEmpty = true
  · simp only [hempty, if_true]
    exact unspaced_empty
  · simp only [hempty]
    exact unspaced_trimSpaces text

end Fragment

theorem Joiner.unspaced_text_toSpaced (joiner : Joiner) : Unspaced joiner.toSpaced.text := by
  unfold toSpaced Fragment.withSpaces
  exact Fragment.unspaced_text_spaced joiner.joined

theorem ListStyle.unspaced_text_join (style : ListStyle) (items : List Fragment) :
    Unspaced (style.join items).text := by
  have hjoined (separator last : String) (items : List Fragment) :
      Unspaced (joinedItems separator last items).text := by
    unfold joinedItems Joiner.toUnspaced
    exact Fragment.unspaced_text_unspaced _
  unfold join
  split
  · split
    · split
      · exact hjoined _ _ _
      · exact hjoined _ _ _
    · exact hjoined _ _ _
  · exact hjoined _ _ _

/-- A text that fits stays as it is, and what is cut has no spaces around it. -/
theorem clip_cases (limit : Nat) (fragment : Fragment) :
    clip limit fragment = fragment ∨ Unspaced (clip limit fragment).text := by
  unfold clip
  by_cases hfits : (trimBlank fragment.text).length ≤ limit
  · left
    exact if_pos hfits
  · right
    simp only [hfits, if_false]
    -- the cut text begins like the stripped one, and ends with a point
    let stripped := strip isWhitespace fragment.text.toList
    let beginning := dropEndWhile isWhitespace (stripped.take (limit - ellipsis.length))
    have htext : (trimBlankEnd (String.ofList ((trimBlank fragment.text).toList.take
        (limit - ellipsis.length))) ++ ellipsis).toList = beginning ++ ['.', '.', '.'] := by
      unfold trimBlankEnd trimBlank
      simp only [String.toList_append, String.toList_ofList]
      rfl
    have hbeginning : beginning <+: stripped :=
      (dropEndWhile_isPrefix _ _).trans (List.take_prefix _ _)
    unfold Unspaced
    rw [htext]
    constructor
    · intro c hc
      cases hb : beginning with
      | nil =>
        rw [hb] at hc
        obtain rfl := Option.some.inj hc
        rfl
      | cons d rest =>
        rw [hb] at hc
        have hstripped : Trimmed isSpaceChar stripped :=
          (trimmed_strip isWhitespace _).mono fun _ => isWhitespace_of_isSpaceChar
        apply hstripped.first
        apply head?_of_isPrefix hbeginning
        rw [hb]
        exact hc
    · intro c hc
      rw [List.getLast?_append] at hc
      obtain rfl := Option.some.inj hc
      rfl

end Phrasebook
