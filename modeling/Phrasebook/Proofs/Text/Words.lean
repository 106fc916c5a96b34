import Mathlib.Data.List.TakeWhile
import Phrasebook.Proofs.Text.Collapsing

/-! # Collapsed text is words

    What collapsing leaves of a text are its words with one space between them. A space in front of
    them stands for whitespace in front of the first word, as if an empty word came before it. -/

namespace Phrasebook

/-! ### Words -/

/-- The words of a text: what stands between whitespace, as far as anything does. -/
def words (cs : List Char) : List (List Char) :=
  (cs.splitOnP isWhitespace).filter fun word => !word.isEmpty

theorem words_whitespace {c : Char} (h : isWhitespace c = true) (cs : List Char) :
    words (c :: cs) = words cs := by
  rw [words, List.splitOnP_cons_eq_if_modifyHead, if_pos h, List.filter_cons_of_neg (by simp)]
  rfl

/-- What is left behind whitespace begins with another character. -/
theorem not_whitespace_of_dropWhile {c : Char} {cs tail : List Char}
    (h : cs.dropWhile isWhitespace = c :: tail) : isWhitespace c = false := by
  simpa [h] using List.head?_dropWhile_not isWhitespace cs

/-- Whitespace in front of the first word does not matter. -/
theorem words_dropWhile (cs : List Char) : words (cs.dropWhile isWhitespace) = words cs := by
  induction cs with
  | nil => rfl
  | cons c cs ih =>
    cases hc : isWhitespace c with
    | true => rw [List.dropWhile_cons_of_pos hc, words_whitespace hc, ih]
    | false => rw [List.dropWhile_cons_of_neg (by simp [hc])]

/-! ### Collapsing -/

/-- What stands in front of the first whitespace is collapsed with the words behind it; it may be
    empty. Where whitespace was seen before, all words stand behind an empty one. -/
theorem collapse_splitOnP (cs : List Char) :
    ∃ front behind, cs.splitOnP isWhitespace = front :: behind ∧
      (collapse false cs).1 =
        [' '].intercalate (front :: behind.filter fun word => !word.isEmpty) ∧
      (collapse true cs).1 = [' '].intercalate ([] :: words cs) := by
  induction cs with
  | nil => exact ⟨[], [], rfl, rfl, rfl⟩
  | cons c cs ih =>
    obtain ⟨front, behind, hsplit, hfalse, htrue⟩ := ih
    cases hc : isWhitespace c with
    | true =>
      have hcons : (c :: cs).splitOnP isWhitespace = [] :: cs.splitOnP isWhitespace := by
        rw [List.splitOnP_cons_eq_if_modifyHead, if_pos hc]
      refine ⟨[], _, hcons, ?_, ?_⟩
      · rw [collapse_whitespace hc, htrue, words]
      · rw [collapse_whitespace hc, htrue, words_whitespace hc]
    | false =>
      have hcons : (c :: cs).splitOnP isWhitespace = (c :: front) :: behind := by
        rw [List.splitOnP_cons_eq_if_modifyHead, if_neg (by simp [hc]), hsplit, List.modifyHead_cons]
      refine ⟨c :: front, behind, hcons, ?_, ?_⟩
      · rw [collapse_cons hc, hfalse, List.intercalate_cons_cons_left]
        rfl
      · rw [collapse_cons hc, hfalse, words, hcons, List.filter_cons_of_pos (by rfl),
          List.intercalate_cons_cons, List.intercalate_cons_cons_left]
        rfl

/-- Behind the whitespace that a text begins with, it is collapsed to its words. -/
theorem collapse_dropWhile (cs : List Char) :
    (collapse false (cs.dropWhile isWhitespace)).1 = [' '].intercalate (words cs) := by
  rw [← words_dropWhile cs]
  obtain ⟨front, behind, hsplit, hfalse, -⟩ := collapse_splitOnP (cs.dropWhile isWhitespace)
  rw [hfalse, words, hsplit]
  cases hdrop : cs.dropWhile isWhitespace with
  | nil =>
    rw [hdrop] at hsplit
    obtain ⟨rfl, rfl⟩ := List.cons.inj hsplit
    rfl
  | cons c tail =>
    -- the first character is one of the first word
    have hc := not_whitespace_of_dropWhile hdrop
    obtain ⟨word, words, htail⟩ :=
      List.exists_cons_of_ne_nil (List.splitOnP_ne_nil isWhitespace tail)
    rw [hdrop, List.splitOnP_cons_eq_if_modifyHead, if_neg (by simp [hc]), htail,
      List.modifyHead_cons] at hsplit
    obtain ⟨rfl, rfl⟩ := List.cons.inj hsplit
    rw [List.filter_cons_of_pos (by rfl)]

/-- Only whitespace has no words. -/
theorem intercalate_words_eq_nil_iff {cs : List Char} :
    [' '].intercalate (words cs) = [] ↔ cs.all isWhitespace = true := by
  rw [← collapse_dropWhile, List.all_eq_true, ← List.dropWhile_eq_nil_iff]
  cases hdrop : cs.dropWhile isWhitespace with
  | nil => exact iff_of_true rfl rfl
  | cons c tail =>
    have hc := not_whitespace_of_dropWhile hdrop
    rw [collapse_cons hc]
    exact iff_of_false (List.cons_ne_nil _ _) (List.cons_ne_nil _ _)

/-- The last character tells whether whitespace stands at the end. -/
theorem collapse_snd (pending : Bool) (cs : List Char) :
    (collapse pending cs).2 = (cs.getLast?.map isWhitespace).getD pending := by
  induction cs generalizing pending with
  | nil => rfl
  | cons c cs ih =>
    rw [List.getLast?_cons]
    cases hc : isWhitespace c with
    | true =>
      rw [collapse_whitespace hc, ih]
      cases cs.getLast? <;> simp [hc]
    | false =>
      rw [collapse_cons hc, ih]
      cases cs.getLast? <;> simp [hc]

/-! ### Literals -/

namespace Literal

/-- The words of a text, with a space between them and flags for whitespace at the ends of the text. -/
def ofWords (cs : List Char) : Literal :=
  ⟨String.ofList ([' '].intercalate (words cs)), cs.head?.any isWhitespace,
    cs.getLast?.any isWhitespace⟩

theorem isEmpty_ofWords {cs : List Char} :
    (ofWords cs).text.isEmpty = true ↔ cs.all isWhitespace = true := by
  rw [ofWords, String.isEmpty_iff, String.ofList_eq_empty_iff, intercalate_words_eq_nil_iff]

/-- Where there is only whitespace, the flag at the beginning counts for the end. -/
theorem scanned_spaceAfter (cs : List Char) :
    (scanned cs).spaceAfter = cs.getLast?.any isWhitespace := by
  rw [scanned]
  by_cases hall : cs.all isWhitespace = true
  · have hnil : (collapse false (cs.dropWhile isWhitespace)).1 = [] :=
      (collapse_dropWhile cs).trans (intercalate_words_eq_nil_iff.2 hall)
    rw [List.all_eq_true] at hall
    rw [hnil, List.isEmpty_nil, if_pos rfl]
    cases cs with
    | nil => rfl
    | cons c tail =>
      have hlast := hall _ (List.getLast_mem (List.cons_ne_nil c tail))
      rw [List.getLast?_eq_some_getLast (List.cons_ne_nil c tail), Option.any_some, hlast]
      exact hall c List.mem_cons_self
  · have hsome : (collapse false (cs.dropWhile isWhitespace)).1.isEmpty = false := by
      rw [collapse_dropWhile, List.isEmpty_eq_false_iff]
      exact fun h => hall (intercalate_words_eq_nil_iff.1 h)
    -- the last character is behind the whitespace that is dropped
    have hne : cs.dropWhile isWhitespace ≠ [] := by
      intro h
      rw [h] at hsome
      cases hsome
    have hlast : (cs.dropWhile isWhitespace).getLast? = cs.getLast? := by
      conv => rhs; rw [← List.takeWhile_append_dropWhile (p := isWhitespace) (l := cs)]
      rw [List.getLast?_append_of_ne_nil _ hne]
    rw [hsome, if_neg (by decide), collapse_snd, hlast]
    cases cs.getLast? <;> rfl

/-- What is scanned where a text was written are its words. -/
theorem scanned_eq_ofWords (cs : List Char) : scanned cs = ofWords cs := by
  have hbefore : (scanned cs).spaceBefore = cs.head?.any isWhitespace := by
    cases cs <;> rfl
  have htext : (scanned cs).text = String.ofList ([' '].intercalate (words cs)) :=
    congrArg String.ofList (collapse_dropWhile cs)
  rw [ofWords, ← htext, ← hbefore, ← scanned_spaceAfter]

example : ofWords [' ', 'a', '\t', ' ', 'b', 'c'] = ⟨"a bc", true, false⟩ := by decide

end Literal

end Phrasebook
