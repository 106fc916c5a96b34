import Phrasebook.Unicode.Alphabetic

/-!
# Character classes of templates

A template tells apart whitespace, spaces (whitespace that does not break a line), digits and the
characters of names. The lemmas at the end say which classes exclude each other.
-/

namespace Phrasebook

/-- Whitespace beyond ASCII. -/
def wideWhitespace : List Unicode.CodeRange :=
  [(0x85, 0x85), (0xA0, 0xA0), (0x1680, 0x1680), (0x2000, 0x200A), (0x2028, 0x2029),
   (0x202F, 0x202F), (0x205F, 0x205F), (0x3000, 0x3000)]

/-- The property White_Space. -/
def isWhitespace (c : Char) : Bool :=
  if c.toNat < 0x80 then c == ' ' || (0x09 ≤ c.toNat && c.toNat ≤ 0x0D)
  else Unicode.inRanges wideWhitespace c.toNat

/-- Whitespace that does not break a line: all but line feed and carriage return. -/
def isSpaceChar (c : Char) : Bool :=
  c != '\n' && c != '\r' && isWhitespace c

/-- The digits 0 to 9. -/
def isDigit (c : Char) : Bool :=
  '0' ≤ c && c ≤ '9'

/-- Characters that begin a name: letters. -/
def isNameStart (c : Char) : Bool :=
  Unicode.isAlphabetic c

/-- Characters that continue a name: letters, numbers, hyphen and underscore. -/
def isNamePart (c : Char) : Bool :=
  Unicode.isAlphabetic c || Unicode.isNumeric c || c == '-' || c == '_'

/-! ## Relations between the classes -/

theorem isWhitespace_of_isSpaceChar {c : Char} (h : isSpaceChar c = true) :
    isWhitespace c = true := by
  simp [isSpaceChar] at h
  exact h.2

theorem isNamePart_of_isNameStart {c : Char} (h : isNameStart c = true) : isNamePart c = true := by
  simp [isNameStart] at h
  simp [isNamePart, h]

@[simp] theorem isWhitespace_space : isWhitespace ' ' = true := rfl

@[simp] theorem isSpaceChar_space : isSpaceChar ' ' = true := rfl

end Phrasebook
