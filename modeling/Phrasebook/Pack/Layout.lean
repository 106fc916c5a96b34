import Phrasebook.Pack.Bits

/-!
# The layout of packed data

What is packed is a list of chunks: bits that follow each other without a gap, and bytes that start
at the beginning of a byte. `layout` puts them one behind the other; chunks can be written without
knowing where they will stand.
-/

namespace Phrasebook

/-- A piece of packed data. -/
inductive Chunk where
  /-- Bits right behind what is in front of them. -/
  | bits (bits : Bits)
  /-- Bytes, which start at the beginning of a byte. -/
  | bytes (bytes : List UInt8)
deriving DecidableEq, Repr

/-- The bits of chunks that start at a position. Zeros fill the gap in front of bytes. -/
def layout : (position : Nat) → List Chunk → Bits
  | _, [] => []
  | position, .bits bits :: chunks => bits ++ layout (position + bits.length) chunks
  | position, .bytes bytes :: chunks =>
    List.replicate (padding position) false ++ bitsOfBytes bytes ++
      layout (position + padding position + 8 * bytes.length) chunks

/-- The position behind chunks that start at a position. -/
def layoutEnd : (position : Nat) → List Chunk → Nat
  | position, [] => position
  | position, .bits bits :: chunks => layoutEnd (position + bits.length) chunks
  | position, .bytes bytes :: chunks =>
    layoutEnd (position + padding position + 8 * bytes.length) chunks

theorem layout_append (position : Nat) (chunks rest : List Chunk) :
    layout position (chunks ++ rest) =
      layout position chunks ++ layout (layoutEnd position chunks) rest := by
  induction chunks generalizing position with
  | nil => rfl
  | cons chunk chunks ih => cases chunk <;> simp [layout, layoutEnd, ih]

theorem length_layout (position : Nat) (chunks : List Chunk) :
    position + (layout position chunks).length = layoutEnd position chunks := by
  induction chunks generalizing position with
  | nil => rfl
  | cons chunk chunks ih =>
    cases chunk with
    | bits bits =>
      rw [layout, layoutEnd, ← ih, List.length_append]
      omega
    | bytes bytes =>
      rw [layout, layoutEnd, ← ih, List.length_append, List.length_append, length_bitsOfBytes,
        List.length_replicate]
      omega

/-- The bytes of chunks from the beginning; the last one is filled up with zeros. -/
def packedBytes (chunks : List Chunk) : List UInt8 := bytesOfBits (layout 0 chunks)

end Phrasebook
