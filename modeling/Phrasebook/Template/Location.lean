/-!
# Places in a template

Offsets count characters from the beginning of the source. A location adds line and column, both
counted from zero and shown from one. An excerpt is the part of the source around an offset: on
each side at most a given number of characters and at most one line feed.
-/

namespace Phrasebook

/-- A place in a source text. -/
structure Location where
  /-- Characters in front of the place. -/
  offset : Nat
  /-- Line feeds in front of the place. -/
  line : Nat
  /-- Characters between the last line feed and the place. -/
  column : Nat
deriving DecidableEq, Repr, Inhabited

namespace Location

/-- One character further. -/
def step (place : Location) (c : Char) : Location :=
  if c = '\n' then { place with line := place.line + 1, column := 0 }
  else { place with column := place.column + 1 }

/-- The place at an offset. Behind the end of the source, line and column are those of the end. -/
def ofOffset (source : List Char) (offset : Nat) : Location :=
  (source.take offset).foldl step ⟨offset, 0, 0⟩

/-- Line and column, counted from one. -/
def display (place : Location) : String :=
  s!"{place.line + 1}:{place.column + 1}"

/-- Reading order of two places. -/
def le (a b : Location) : Prop :=
  a.line < b.line ∨ a.line = b.line ∧ a.column ≤ b.column

end Location

/-- The characters from `start` up to `stop`. -/
structure Span where
  /-- Offset of the first character. -/
  start : Nat
  /-- Offset behind the last character. -/
  stop : Nat
deriving DecidableEq, Repr, Inhabited

namespace Span

/-- The span between two offsets; it ends no earlier than it starts. -/
def between (start stop : Nat) : Span := ⟨start, max stop start⟩

/-- The part of the source that the span covers. -/
def text (span : Span) (source : List Char) : List Char :=
  (source.drop span.start).take (span.stop - span.start)

theorem start_le_stop_between (start stop : Nat) :
    (between start stop).start ≤ (between start stop).stop :=
  Nat.le_max_right stop start

end Span

/-! ## Excerpts -/

/-- The longest beginning of the text with at most `limit` characters of which at most `feeds`
    are line feeds. -/
def excerptAhead : (feeds limit : Nat) → List Char → List Char
  | _, 0, _ => []
  | _, _, [] => []
  | feeds, limit + 1, c :: cs =>
    if c = '\n' then
      match feeds with
      | 0 => []
      | feeds + 1 => c :: excerptAhead feeds limit cs
    else c :: excerptAhead feeds limit cs

/-- The source around an offset: what leads up to it and what follows. -/
def excerpt (source : List Char) (offset limit : Nat) : List Char × List Char :=
  ((excerptAhead 1 limit (source.take offset).reverse).reverse,
    excerptAhead 1 limit (source.drop offset))

end Phrasebook
