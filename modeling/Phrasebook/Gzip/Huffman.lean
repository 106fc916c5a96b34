/-!
# Canonical prefix codes

A code is given by the length of the codeword of each symbol. Codewords of one length are
consecutive numbers in the order of their symbols, and shorter ones come first. So it is enough to
know how many codewords of each length there are, and the symbols in the order of their codewords.
-/

namespace Phrasebook.Gzip

/-- A canonical prefix code. -/
structure PrefixCode where
  /-- Number of codewords of each length from one on. -/
  counts : List Nat
  /-- The symbols in the order of their codewords. -/
  symbols : Array Nat

/-- The longest codewords. -/
def maxLength : Nat := 15

/-- The symbols whose codewords have a length. -/
def symbolsOfLength (lengths : List Nat) (length : Nat) : List Nat :=
  lengths.zipIdx.filterMap fun (l, symbol) => if l = length then some symbol else none

/-- Share of all sequences of `maxLength` bits that begin with a codeword. -/
def coverage (counts : List Nat) : Nat := counts.foldl (fun sum count => 2 * sum + count) 0

/-- The code with the given lengths; zero stands for a symbol without a codeword. The codewords have
    to cover all sequences of bits, unless there is none or a single one of one bit. -/
def PrefixCode.ofLengths? (lengths : List Nat) : Option PrefixCode :=
  let groups := (List.range maxLength).map fun i => symbolsOfLength lengths (i + 1)
  let counts := groups.map List.length
  let symbols := groups.flatten
  let sparse := symbols.length ≤ 1 ∧ ∀ length ∈ lengths, length ≤ 1
  if coverage counts = 1 <<< maxLength ∨ sparse then some ⟨counts, symbols.toArray⟩ else none

/-- Follows bits through the lengths: `code` is the number read so far, `first` the first codeword of
    the length in hand, and `index` the place of its symbol. -/
def findSymbol (symbols : Array Nat) :
    (counts : List Nat) → (code first index : Nat) → List Bool → Option (Nat × List Bool)
  | [], _, _, _, _ => none
  | _, _, _, _, [] => none
  | count :: counts, code, first, index, bit :: bits =>
    let code := 2 * code + bit.toNat
    let first := 2 * first
    if code < first + count then (symbols[index + (code - first)]?).map fun s => (s, bits)
    else findSymbol symbols counts code (first + count) (index + count) bits

/-- Reads a symbol. -/
def PrefixCode.read? (code : PrefixCode) (bits : List Bool) : Option (Nat × List Bool) :=
  findSymbol code.symbols code.counts 0 0 0 bits

end Phrasebook.Gzip
