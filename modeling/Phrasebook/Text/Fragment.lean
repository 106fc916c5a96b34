import Phrasebook.Text.Spacing

/-!
# Fragments of text and how they join

A fragment is text with two flags: whether a space belongs in front of it and behind it. A joiner
glues fragments together, with one space between two texts where a flag asks for it. Flags of
fragments without text count for their neighbours.
-/

namespace Phrasebook

/-- Text whose surrounding spaces are kept as flags. -/
structure Fragment where
  /-- The text. -/
  text : String := ""
  /-- A space belongs in front of the text. -/
  spaceBefore : Bool := false
  /-- A space belongs behind the text. -/
  spaceAfter : Bool := false
deriving DecidableEq, Repr, Inhabited

namespace Fragment

/-- No text and no flag. -/
def empty : Fragment := {}

/-- The text without the spaces around it, which are forgotten. -/
def unspaced (s : String) : Fragment := { text := trimSpaces s }

/-- The text without the spaces around it, which become flags. A text of spaces sets both. -/
def spaced (s : String) : Fragment :=
  let trimmed := trimSpaces s
  if trimmed.isEmpty then ⟨"", !s.isEmpty, !s.isEmpty⟩
  else
    ⟨trimmed, (s.toList.head?.map isSpaceChar).getD false,
      (s.toList.getLast?.map isSpaceChar).getD false⟩

/-- Adds flags to those of the fragment. -/
def withSpaces (before after : Bool) (f : Fragment) : Fragment :=
  { f with spaceBefore := f.spaceBefore || before, spaceAfter := f.spaceAfter || after }

/-- Tells whether there is no text. -/
def isEmpty (f : Fragment) : Bool := f.text.isEmpty

/-- The text with one space for each flag. -/
def textWithSpaces (f : Fragment) : String :=
  (if f.spaceBefore then " " else "") ++ f.text ++ (if f.spaceAfter then " " else "")

end Fragment

/-- Texts joined so far, and whether a space belongs in front of the next one. -/
structure Joiner where
  /-- The joined text. -/
  joined : String := ""
  /-- A space is pending. -/
  pending : Bool := false
deriving DecidableEq, Repr, Inhabited

namespace Joiner

/-- Adds a fragment. -/
def add (j : Joiner) (f : Fragment) : Joiner :=
  let pending := j.pending || f.spaceBefore
  if f.isEmpty then { j with pending := pending || f.spaceAfter }
  else ⟨j.joined ++ (if pending then " " else "") ++ f.text, f.spaceAfter⟩

/-- Adds fragments in order. -/
def addAll (j : Joiner) (fs : List Fragment) : Joiner := fs.foldl add j

/-- The joined text; spaces around it and a pending one become flags. -/
def toSpaced (j : Joiner) : Fragment := (Fragment.spaced j.joined).withSpaces false j.pending

/-- The joined text without the spaces around it. -/
def toUnspaced (j : Joiner) : Fragment := Fragment.unspaced j.joined

@[simp] theorem addAll_nil (j : Joiner) : j.addAll [] = j := rfl

@[simp] theorem addAll_cons (j : Joiner) (f : Fragment) (fs : List Fragment) :
    j.addAll (f :: fs) = (j.add f).addAll fs := rfl

theorem addAll_append (j : Joiner) (fs gs : List Fragment) :
    j.addAll (fs ++ gs) = (j.addAll fs).addAll gs := by
  simp [addAll]

end Joiner

end Phrasebook
