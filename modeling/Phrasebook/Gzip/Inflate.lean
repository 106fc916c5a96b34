import Phrasebook.Gzip.Huffman

/-!
# Restoring compressed data

Compressed data is a sequence of blocks: stored bytes, or symbols of prefix codes that stand for bytes
and for copies of what was restored before. Numbers come with their lowest bit first.
-/

namespace Phrasebook.Gzip

/-- What is restored so far, and the bits that are left. -/
structure Progress where
  /-- The restored bytes. -/
  output : Array UInt8
  /-- The bits that are left. -/
  bits : List Bool

/-- The bits of bytes, the lowest one of each byte first. -/
def lowFirstBits (bytes : List UInt8) : List Bool :=
  bytes.flatMap fun byte => (List.range 8).map byte.toNat.testBit

/-- Takes a number of some bits, the lowest one first. -/
def takeNumber? : (width : Nat) → List Bool → Option (Nat × List Bool)
  | 0, bits => some (0, bits)
  | _ + 1, [] => none
  | width + 1, bit :: bits =>
    (takeNumber? width bits).map fun (number, rest) => (bit.toNat + 2 * number, rest)

/-! ## Copies -/

/-- Ranges of lengths or distances: the first one of each and the number of bits that follow. -/
abbrev Ranges := List (Nat × Nat)

/-- The ranges of lengths. -/
def lengthRanges : Ranges :=
  [(3, 0), (4, 0), (5, 0), (6, 0), (7, 0), (8, 0), (9, 0), (10, 0), (11, 1), (13, 1), (15, 1),
    (17, 1), (19, 2), (23, 2), (27, 2), (31, 2), (35, 3), (43, 3), (51, 3), (59, 3), (67, 4),
    (83, 4), (99, 4), (115, 4), (131, 5), (163, 5), (195, 5), (227, 5), (258, 0)]

/-- The ranges of distances. -/
def distanceRanges : Ranges :=
  [(1, 0), (2, 0), (3, 0), (4, 0), (5, 1), (7, 1), (9, 2), (13, 2), (17, 3), (25, 3), (33, 4),
    (49, 4), (65, 5), (97, 5), (129, 6), (193, 6), (257, 7), (385, 7), (513, 8), (769, 8),
    (1025, 9), (1537, 9), (2049, 10), (3073, 10), (4097, 11), (6145, 11), (8193, 12), (12289, 12),
    (16385, 13), (24577, 13)]

/-- Takes a member of a range. -/
def takeMember? (ranges : Ranges) (range : Nat) (bits : List Bool) : Option (Nat × List Bool) := do
  let (first, width) ← ranges[range]?
  let (offset, bits) ← takeNumber? width bits
  return (first + offset, bits)

/-- The byte at a distance in front of the end. All bytes in front of the first one are zero. -/
def byteBehind (output : Array UInt8) (distance : Nat) : UInt8 :=
  if output.size < distance then 0 else (output[output.size - distance]?).getD 0

/-- Appends bytes from a distance in front of the end; the copy may run into itself. -/
def copyBack : (count distance : Nat) → Array UInt8 → Array UInt8
  | 0, _, output => output
  | count + 1, distance, output =>
    copyBack count distance (output.push (byteBehind output distance))

/-! ## Blocks -/

/-- The symbol that ends a block. -/
def endOfBlock : Nat := 256

/-- Reads symbols up to the end of a block. Each one takes at least one bit, so that the number of
    bits bounds the number of symbols. -/
def readSymbols (literals distances : PrefixCode) :
    (fuel : Nat) → Progress → Option Progress
  | 0, _ => none
  | fuel + 1, ⟨output, bits⟩ => do
    let (symbol, bits) ← literals.read? bits
    if symbol < endOfBlock then
      readSymbols literals distances fuel ⟨output.push (UInt8.ofNat symbol), bits⟩
    else if symbol = endOfBlock then return ⟨output, bits⟩
    else
      let (count, bits) ← takeMember? lengthRanges (symbol - endOfBlock - 1) bits
      let (symbol, bits) ← distances.read? bits
      let (distance, bits) ← takeMember? distanceRanges symbol bits
      readSymbols literals distances fuel ⟨copyBack count distance output, bits⟩

/-- The lengths of the codewords of literals where a block does not give them. -/
def fixedLiterals : List Nat :=
  List.replicate 144 8 ++ List.replicate 112 9 ++ List.replicate 24 7 ++ List.replicate 8 8

/-- The lengths of the codewords of distances where a block does not give them. -/
def fixedDistances : List Nat := List.replicate 32 5

/-- The order in which a block gives the lengths of the code for lengths. -/
def lengthOrder : List Nat :=
  [16, 17, 18, 0, 8, 7, 9, 6, 10, 5, 11, 4, 12, 3, 13, 2, 14, 1, 15]

/-- Takes numbers of three bits. -/
def takeShort : (count : Nat) → List Bool → Option (List Nat × List Bool)
  | 0, bits => some ([], bits)
  | count + 1, bits => do
    let (number, bits) ← takeNumber? 3 bits
    let (numbers, bits) ← takeShort count bits
    return (number :: numbers, bits)

/-- Reads lengths of codewords until there are `wanted` ones. They come latest first. Repetitions must
    not go beyond. -/
def readLengths (code : PrefixCode) (wanted : Nat) :
    (fuel : Nat) → (lengths : List Nat) → List Bool → Option (List Nat × List Bool)
  | 0, _, _ => none
  | fuel + 1, lengths, bits => do
    if lengths.length = wanted then return (lengths.reverse, bits)
    else if wanted < lengths.length then none
    else
      let (symbol, bits) ← code.read? bits
      match symbol with
      | 16 =>
        let last ← lengths.head?
        let (count, bits) ← takeNumber? 2 bits
        readLengths code wanted fuel (List.replicate (count + 3) last ++ lengths) bits
      | 17 =>
        let (count, bits) ← takeNumber? 3 bits
        readLengths code wanted fuel (List.replicate (count + 3) 0 ++ lengths) bits
      | 18 =>
        let (count, bits) ← takeNumber? 7 bits
        readLengths code wanted fuel (List.replicate (count + 11) 0 ++ lengths) bits
      | length => readLengths code wanted fuel (length :: lengths) bits

/-- The most codewords of literals that a block may give. -/
def literalLimit : Nat := 286

/-- The most codewords of distances that a block may give. -/
def distanceLimit : Nat := 30

/-- Reads the codes that a block gives. -/
def readCodes (bits : List Bool) : Option (PrefixCode × PrefixCode × List Bool) := do
  let (literalCount, bits) ← takeNumber? 5 bits
  let (distanceCount, bits) ← takeNumber? 5 bits
  let (lengthCount, bits) ← takeNumber? 4 bits
  let literalCount := literalCount + 257
  let distanceCount := distanceCount + 1
  if literalLimit < literalCount ∨ distanceLimit < distanceCount then none
  else
    let (given, bits) ← takeShort (lengthCount + 4) bits
    let table := lengthOrder.zip given
    let code ← PrefixCode.ofLengths? ((List.range 19).map fun i => (table.lookup i).getD 0)
    let (lengths, bits) ← readLengths code (literalCount + distanceCount) (bits.length + 1) [] bits
    let literals ← PrefixCode.ofLengths? (lengths.take literalCount)
    let distances ← PrefixCode.ofLengths? (lengths.drop literalCount)
    return (literals, distances, bits)

/-- Takes stored bytes. -/
def takeStored : (count : Nat) → Progress → Option Progress
  | 0, progress => some progress
  | count + 1, ⟨output, bits⟩ => do
    let (byte, bits) ← takeNumber? 8 bits
    takeStored count ⟨output.push (UInt8.ofNat byte), bits⟩

/-- Reads a block of stored bytes: from the beginning of the next byte, their number, the same number
    with all bits flipped, and the bytes. -/
def readStored (progress : Progress) : Option Progress := do
  let bits := progress.bits.drop (progress.bits.length % 8)
  let (count, bits) ← takeNumber? 16 bits
  let (flipped, bits) ← takeNumber? 16 bits
  if count + flipped = 0xFFFF then takeStored count ⟨progress.output, bits⟩ else none

/-- Reads a block behind its first bit. -/
def readBlock (progress : Progress) : Option Progress := do
  let (kind, bits) ← takeNumber? 2 progress.bits
  let fuel := bits.length + 1
  match kind with
  | 0 => readStored ⟨progress.output, bits⟩
  | 1 =>
    let literals ← PrefixCode.ofLengths? fixedLiterals
    let distances ← PrefixCode.ofLengths? fixedDistances
    readSymbols literals distances fuel ⟨progress.output, bits⟩
  | 2 =>
    let (literals, distances, bits) ← readCodes bits
    readSymbols literals distances fuel ⟨progress.output, bits⟩
  | _ => none

/-- Reads blocks up to the one that says that it is the last. -/
def readBlocks : (fuel : Nat) → Progress → Option Progress
  | 0, _ => none
  | fuel + 1, ⟨output, bits⟩ => do
    let (last, bits) ← takeNumber? 1 bits
    let progress ← readBlock ⟨output, bits⟩
    if last = 1 then return progress else readBlocks fuel progress

/-- Restores compressed data: the bytes, and the number of bytes that are left. -/
def inflate? (data : List UInt8) : Option (List UInt8 × Nat) := do
  let bits := lowFirstBits data
  let progress ← readBlocks (bits.length + 1) ⟨#[], bits⟩
  return (progress.output.toList, progress.bits.length / 8)

end Phrasebook.Gzip
