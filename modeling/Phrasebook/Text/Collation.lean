import Phrasebook.Unicode.Case
import Phrasebook.Unicode.Decomposition

/-!
# Collation

Texts are ordered the way people read them: first by base letters, without accents and case, then
by accents, then by case with lower case first. The order is that of a key, compared level by
level, so it is total and transitive.
-/

namespace Phrasebook

/-- What collation compares, in order of importance. -/
structure CollationKey where
  /-- Letters in lower case without marks. -/
  base : List Char
  /-- Letters in lower case with their marks. -/
  accented : List Char
  /-- For each letter, whether it is upper case. -/
  upper : List Bool
deriving DecidableEq, Repr

/-- The key of a text. -/
def collationKey (s : String) : CollationKey :=
  let letters := Unicode.decompose s
  let unmarked := letters.filter fun c => !Unicode.isMark c
  { base := unmarked.flatMap Unicode.lowercase
    accented := letters.flatMap Unicode.lowercase
    upper := unmarked.map Unicode.isUppercase }

/-- Order of two lists by their first difference; a beginning comes first. -/
def compareLists {α : Type} (cmp : α → α → Ordering) : List α → List α → Ordering
  | [], [] => .eq
  | [], _ :: _ => .lt
  | _ :: _, [] => .gt
  | a :: as, b :: bs => (cmp a b).then (compareLists cmp as bs)

/-- Order of characters by code point. -/
def compareChars (a b : Char) : Ordering := compare a.toNat b.toNat

/-- Order of truth values: false comes first. -/
def compareBools (a b : Bool) : Ordering := compare a.toNat b.toNat

/-- Order of keys. -/
def CollationKey.compare (a b : CollationKey) : Ordering :=
  (compareLists compareChars a.base b.base).then
    ((compareLists compareChars a.accented b.accented).then
      (compareLists compareBools a.upper b.upper))

/-- Collation order of two texts. -/
def collate (s t : String) : Ordering := (collationKey s).compare (collationKey t)

/-- Texts in collation order; equal ones keep their order. -/
def sortByCollation (texts : List String) : List String :=
  texts.mergeSort fun s t => collate s t != .gt

end Phrasebook
