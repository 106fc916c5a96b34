/-!
# Comparators

The six relations a key may ask for. Their order of declaration is also their packed number.
-/

namespace Phrasebook

/-- Relation of a value to the constant of a key. -/
inductive Comparator where
  /-- Less than the key. -/
  | lt
  /-- Less than the key or equal to it. -/
  | le
  /-- Equal to the key; the relation of a key without a comparator. -/
  | eq
  /-- Different from the key. -/
  | ne
  /-- Greater than the key. -/
  | gt
  /-- Greater than the key or equal to it. -/
  | ge
deriving DecidableEq, Repr, Inhabited

namespace Comparator

/-- All comparators in packed order. -/
def all : List Comparator := [.lt, .le, .eq, .ne, .gt, .ge]

/-- Tells whether the relation holds for a value that is so ordered to the key. -/
def holds : Comparator → Ordering → Bool
  | .lt, o => o == .lt
  | .le, o => o != .gt
  | .eq, o => o == .eq
  | .ne, o => o != .eq
  | .gt, o => o == .gt
  | .ge, o => o != .lt

/-- The comparator as it is written. -/
def symbol : Comparator → String
  | .lt => "<"
  | .le => "<="
  | .eq => "="
  | .ne => "<>"
  | .gt => ">"
  | .ge => ">="

/-- The comparator as it is written in front of a key, where equality goes without saying. -/
def keyMark : Comparator → String
  | .eq => ""
  | c => c.symbol

/-- Position among all comparators. -/
def ordinal : Comparator → Nat
  | .lt => 0
  | .le => 1
  | .eq => 2
  | .ne => 3
  | .gt => 4
  | .ge => 5

/-- The comparator at a position. -/
def ofOrdinal? (n : Nat) : Option Comparator := all[n]?

@[simp] theorem ofOrdinal?_ordinal (c : Comparator) : ofOrdinal? c.ordinal = some c := by
  cases c <;> rfl

end Comparator

end Phrasebook
