import Phrasebook.Pack.Number
import Phrasebook.Text.Utf8

/-!
# Packed strings

A string is a length and the bytes of the text, which start at the beginning of a byte. An absent
string is two zero bits; the empty string has a length but no bytes, and leaves no gap.
-/

namespace Phrasebook

/-- The bits of the length of a string. -/
def lengthBits (length : Nat) : Bits :=
  if length < 16 then [false, true] ++ bitsOf 4 length
  else if length < 256 then [true, false] ++ bitsOf 8 length
  else [true, true] ++ integerBits (.ofNat length)

/-- The chunks of a string. -/
def textChunks (text : String) : List Chunk :=
  let bytes := utf8Bytes text
  .bits (lengthBits bytes.length) :: if bytes.isEmpty then [] else [.bytes bytes]

/-- The chunks of a string that may be absent. -/
def optionalChunks : Option String → List Chunk
  | none => [.bits [false, false]]
  | some text => textChunks text

namespace PackReader

/-- Reads the length of a string, if there is one. -/
def readLength : PackReader (Option Nat) := do
  match ← readBits 2 with
  | 0 => return none
  | 1 => return some (← readBits 4)
  | 2 => return some (← readBits 8)
  | _ =>
    let value ← readInteger
    if value.toInt < 0 then refuse (.negativeLength value) else return some value.toInt.toNat

/-- Reads the bytes of a text. -/
def readTextOf (length : Nat) : PackReader String := do
  if length = 0 then return ""
  else
    match readUtf8 (← takeBytes length) with
    | .ok text => return text
    | .error defect => throw (.invalidText defect)

/-- Reads a string that may be absent. -/
def readOptional : PackReader (Option String) := do
  match ← readLength with
  | none => return none
  | some length => return some (← readTextOf length)

/-- Reads a string that must not be absent. -/
def readText (what : String) : PackReader String := do
  match ← readOptional with
  | some text => return text
  | none => refuse (.missing what)

end PackReader

end Phrasebook
