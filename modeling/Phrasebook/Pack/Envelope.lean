import Phrasebook.Gzip.Member
import Phrasebook.Pack.Reading
import Phrasebook.Pack.Writing

/-!
# Packs

A pack is a header and a body with the messages. The header is the mark of packs and a byte with the
version of the format and a flag for compressed bodies.
-/

namespace Phrasebook

/-- The bytes that every pack begins with. -/
def packMark : List UInt8 := [0x25, 0x7B, 0x6D, 0x73, 0x67, 0x7D]

/-- The version of the format. -/
def packVersion : Nat := 1

/-- Number of bytes of the header. -/
def headerSize : Nat := 7

/-- The byte behind the mark. -/
def headerByte (compress : Bool) : UInt8 := if compress then 0xC1 else 0x41

/-- The bytes of a body in a pack. -/
def sealBody (compress : Bool) (body : List UInt8) : List UInt8 :=
  packMark ++ [headerByte compress] ++ if compress then Gzip.member body else body

/-- Packs messages. -/
def packMessages (compress : Bool) (messages : List Message) : List UInt8 :=
  sealBody compress (packBody messages)

/-- Packs one message. -/
def packMessage (compress : Bool) (message : Message) : List UInt8 :=
  packMessages compress [message]

/-- The body of a pack, restored if it is compressed. -/
def openBody (pack : List UInt8) : Except PackError (List UInt8) :=
  match pack.drop packMark.length with
  | flags :: body =>
    if pack.take packMark.length ≠ packMark ∨ !flags.toNat.testBit 6 then .error .badHeader
    else if flags.toNat % 64 ≠ packVersion then .error (.unsupportedVersion (flags.toNat % 64))
    else if flags.toNat.testBit 7 then
      match Gzip.read? body with
      | some body => .ok body
      | none => .error .corruptArchive
    else .ok body
  | [] => .error .badHeader

/-- Unpacks all messages. -/
def unpackMessages (pack : List UInt8) : Except PackError (List Message) :=
  match openBody pack with
  | .error e => .error e
  | .ok body => unpackBody body

/-- Unpacks the only message. -/
def unpackMessage (pack : List UInt8) : Except PackError Message :=
  match unpackMessages pack with
  | .error e => .error e
  | .ok [message] => .ok message
  | .ok messages => .error (.inconsistent (.messageCount messages.length))

end Phrasebook
