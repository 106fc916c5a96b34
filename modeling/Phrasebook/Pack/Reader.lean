import Phrasebook.Pack.Bits
import Phrasebook.Pack.Failure

/-!
# Reading bits

A reader takes bits from a source. It keeps the position that it reached, also where it fails, so
that reading can go on behind a failure.
-/

namespace Phrasebook

/-- Bits to be read. -/
structure BitSource where
  /-- Number of bits read so far. -/
  position : Nat
  /-- The bits that are left. -/
  rest : Bits
deriving DecidableEq, Repr

/-- The source of bytes, before anything is read. -/
def BitSource.ofBytes (bytes : List UInt8) : BitSource := ⟨0, bitsOfBytes bytes⟩

/-- A reader of packed data. -/
abbrev PackReader (α : Type) := ExceptT PackError (StateM BitSource) α

/-- Cuts a number of bits off, if there are that many. -/
def splitBits? : (count : Nat) → Bits → Option (Bits × Bits)
  | 0, bits => some ([], bits)
  | _ + 1, [] => none
  | count + 1, bit :: bits => (splitBits? count bits).map fun (front, rest) => (bit :: front, rest)

theorem splitBits?_append (front rest : Bits) :
    splitBits? front.length (front ++ rest) = some (front, rest) := by
  induction front with
  | nil => rfl
  | cons bit front ih => simp [splitBits?, ih]

theorem eq_append_of_splitBits? {count : Nat} {bits front rest : Bits}
    (h : splitBits? count bits = some (front, rest)) :
    bits = front ++ rest ∧ front.length = count := by
  induction count generalizing bits front with
  | zero => simp [splitBits?] at h; simp [h]
  | succ count ih =>
    cases bits with
    | nil => simp [splitBits?] at h
    | cons bit bits =>
      simp only [splitBits?, Option.map_eq_some_iff] at h
      obtain ⟨⟨f, r⟩, hs, he⟩ := h
      simp at he
      obtain ⟨rfl, rfl⟩ := he
      have := ih hs
      simp [this]

namespace PackReader

/-- Takes a number of bits. If there are fewer, all are used up. -/
def takeBits (count : Nat) : PackReader Bits := do
  let source ← get
  match splitBits? count source.rest with
  | some (front, rest) =>
    set (⟨source.position + count, rest⟩ : BitSource)
    return front
  | none =>
    set (⟨source.position + source.rest.length, []⟩ : BitSource)
    throw .unexpectedEnd

/-- Goes to the beginning of the next byte, unless the reader stands at one. -/
def align : PackReader Unit := do
  let source ← get
  let gap := padding source.position
  set (⟨source.position + gap, source.rest.drop gap⟩ : BitSource)

/-- Takes a number of bytes from the beginning of the next byte on. If there are fewer, the reader
    stays there. -/
def takeBytes (count : Nat) : PackReader (List UInt8) := do
  align
  let source ← get
  match splitBits? (8 * count) source.rest with
  | some (front, rest) =>
    set (⟨source.position + 8 * count, rest⟩ : BitSource)
    return bytesOfBits front
  | none => throw .unexpectedEnd

/-- Refuses the pack because of a contradiction. -/
def refuse {α : Type} (contradiction : Inconsistency) : PackReader α :=
  throw (.inconsistent contradiction)

/-- Reads a bit. -/
def readBool : PackReader Bool := do return (← takeBits 1) == [true]

/-- Reads a number of some bits. What is beyond 64 bits is lost. -/
def readBits (width : Nat) : PackReader Nat := do return bitsValue (← takeBits width) % 0x10000000000000000

/-- Reads a tag. What is beyond a byte is lost. -/
def readTag (width : Nat) : PackReader Nat := do return (← readBits width) % 0x100

/-- Reads a number of items. -/
def readMany {α : Type} (item : PackReader α) : (count : Nat) → PackReader (List α)
  | 0 => return []
  | count + 1 => do
    let first ← item
    let rest ← readMany item count
    return first :: rest

end PackReader

end Phrasebook
