/-!
# Ranges of code points

Character properties of the Unicode standard are kept as lists of closed ranges: those of canonical
decomposition follow version 18, all others version 17. The tables of this folder hold the code
points from U+0080 on; each property decides ASCII by a rule of its own, so that statements about
ASCII characters need no table.
-/

namespace Phrasebook.Unicode

/-- A closed range of code points: first and last member. -/
abbrev CodeRange := Nat × Nat

/-- Tells whether a code point lies in one of the ranges. -/
def inRanges (ranges : List CodeRange) (code : Nat) : Bool :=
  ranges.any fun range => range.1 ≤ code && code ≤ range.2

@[simp] theorem inRanges_nil (code : Nat) : inRanges [] code = false := rfl

theorem inRanges_eq_true_iff {ranges : List CodeRange} {code : Nat} :
    inRanges ranges code = true ↔ ∃ range ∈ ranges, range.1 ≤ code ∧ code ≤ range.2 := by
  simp [inRanges]

end Phrasebook.Unicode
