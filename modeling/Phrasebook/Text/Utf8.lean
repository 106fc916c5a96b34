import Phrasebook.Number.Integer

/-!
# Texts as bytes

Texts are stored in UTF-8. Bytes that are no UTF-8 are no text, and the first offence among them can
be named; what was stored is read back (`readUtf8_utf8Bytes`).
-/

namespace Phrasebook

/-- The bytes of a text. -/
def utf8Bytes (s : String) : List UInt8 := s.toList.flatMap String.utf8EncodeChar

/-! ## Offences -/

/-- The first offence against UTF-8 among bytes. -/
structure Utf8Defect where
  /-- Number of bytes in front of the character that is wrong. -/
  index : Nat
  /-- Number of bytes that can not begin a character; none if the bytes end too early. -/
  length : Option Nat
deriving DecidableEq, Repr, Inhabited

/-- The wording of an offence. -/
def Utf8Defect.message (defect : Utf8Defect) : String :=
  match defect.length with
  | some length =>
    s!"invalid utf-8 sequence of {natText length} bytes from index {natText defect.index}"
  | none => s!"incomplete utf-8 byte sequence from index {natText defect.index}"

/-- A range of bytes: first and last member. -/
abbrev ByteRange := Nat × Nat

/-- The range of bytes that continue a character. -/
def continuation : ByteRange := (0x80, 0xBF)

/-- The ranges of the bytes behind the first byte of a character. -/
def bytesBehind? (first : Nat) : Option (List ByteRange) :=
  if first < 0x80 then some []
  else if first < 0xC2 then none
  else if first < 0xE0 then some [continuation]
  else if first = 0xE0 then some [(0xA0, 0xBF), continuation]
  else if first = 0xED then some [(0x80, 0x9F), continuation]
  else if first < 0xF0 then some [continuation, continuation]
  else if first = 0xF0 then some [(0x90, 0xBF), continuation, continuation]
  else if first < 0xF4 then some [continuation, continuation, continuation]
  else if first = 0xF4 then some [(0x80, 0x8F), continuation, continuation]
  else none

/-- How far bytes follow ranges. -/
inductive FollowResult where
  /-- All the way; the bytes that are left. -/
  | complete (rest : List UInt8)
  /-- Up to a byte that is out of its range; the number of bytes in front of it. -/
  | broken (count : Nat)
  /-- Up to the end of the bytes. -/
  | ended

/-- Follows ranges, with the number of bytes followed so far. -/
def follow : (count : Nat) → List ByteRange → List UInt8 → FollowResult
  | _, [], bytes => .complete bytes
  | _, _ :: _, [] => .ended
  | count, (low, high) :: ranges, byte :: bytes =>
    if low ≤ byte.toNat ∧ byte.toNat ≤ high then follow (count + 1) ranges bytes else .broken count

theorem follow_rest_le {count : Nat} {ranges : List ByteRange} {bytes rest : List UInt8}
    (h : follow count ranges bytes = .complete rest) : rest.length ≤ bytes.length := by
  induction ranges generalizing count bytes with
  | nil => simp [follow] at h; simp [h]
  | cons range ranges ih =>
    cases bytes with
    | nil => simp [follow] at h
    | cons byte bytes =>
      simp only [follow] at h
      split at h
      · have := ih h
        simp
        omega
      · simp at h

/-- The first offence behind a number of bytes. -/
def findDefect? (index : Nat) : List UInt8 → Option Utf8Defect
  | [] => none
  | byte :: bytes =>
    match bytesBehind? byte.toNat with
    | none => some ⟨index, some 1⟩
    | some ranges =>
      match _h : follow 1 ranges bytes with
      | .complete rest => findDefect? (index + 1 + ranges.length) rest
      | .broken count => some ⟨index, some count⟩
      | .ended => some ⟨index, none⟩
termination_by bytes => bytes.length
decreasing_by
  have := follow_rest_le _h
  simp
  omega

/-! ## Reading -/

/-- The text that the bytes encode, or the first offence. -/
def readUtf8 (bytes : List UInt8) : Except Utf8Defect String :=
  match String.fromUTF8? bytes.toByteArray with
  | some text => .ok text
  | none => .error ((findDefect? 0 bytes).getD default)

theorem toByteArray_utf8Bytes (s : String) : (utf8Bytes s).toByteArray = s.toByteArray := by
  conv => rhs; rw [← String.ofList_toList (s := s)]
  rfl

/-- Reading the bytes of a text gives the text back. -/
theorem readUtf8_utf8Bytes (s : String) : readUtf8 (utf8Bytes s) = .ok s := by
  rw [readUtf8, toByteArray_utf8Bytes, String.fromUTF8?, dif_pos s.isValidUTF8]
  rfl

end Phrasebook
