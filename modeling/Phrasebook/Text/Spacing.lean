import Phrasebook.Text.Classes

/-!
# Trimming

`strip p` drops the characters of a class from both ends of a text. Templates strip spaces (line
breaks stay); words that are read as numbers, truth values or locale tags are stripped of all
whitespace.
-/

namespace Phrasebook

/-- Drops the characters of the class from the end of the list. -/
def dropEndWhile (p : Char → Bool) (cs : List Char) : List Char :=
  (cs.reverse.dropWhile p).reverse

/-- Drops the characters of the class from both ends of the list. -/
def strip (p : Char → Bool) (cs : List Char) : List Char :=
  dropEndWhile p (cs.dropWhile p)

/-- The text without the spaces around it. -/
def trimSpaces (s : String) : String :=
  String.ofList (strip isSpaceChar s.toList)

/-- The text without the whitespace around it. -/
def trimBlank (s : String) : String :=
  String.ofList (strip isWhitespace s.toList)

/-- The text without the whitespace at its end. -/
def trimBlankEnd (s : String) : String :=
  String.ofList (dropEndWhile isWhitespace s.toList)

/-- Tells whether the text consists of spaces only, as the empty text does. -/
def isSpaces (s : String) : Bool :=
  s.toList.all isSpaceChar

/-- Tells whether two texts differ at most in the case of ASCII letters. -/
def eqIgnoringAsciiCase (s t : String) : Bool :=
  s.toList.map Char.toLower == t.toList.map Char.toLower

/-! ## Lemmas on lists -/

variable {p : Char → Bool} {cs : List Char}

@[simp] theorem dropEndWhile_nil : dropEndWhile p [] = [] := rfl

@[simp] theorem strip_nil : strip p [] = [] := rfl

theorem dropEndWhile_length_le : (dropEndWhile p cs).length ≤ cs.length := by
  have := (List.dropWhile_suffix p (l := cs.reverse)).length_le
  simpa [dropEndWhile] using this

end Phrasebook
