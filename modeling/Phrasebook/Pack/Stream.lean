import Phrasebook.Pack.Writer

/-!
# Streams of items

An item is a value of one of the five kinds that packs are made of. Items are written one behind the
other, and are read again by asking for their kinds in the same order.
-/

namespace Phrasebook

/-- A value as it is written to a stream. -/
inductive StreamItem where
  /-- A bit. -/
  | bool (value : Bool)
  /-- The lowest bits of a word. -/
  | bits (width : Nat) (value : UInt64)
  /-- A count. -/
  | count (value : Nat)
  /-- An integer. -/
  | integer (value : Int64)
  /-- A text that may be absent. -/
  | text (value : Option String)
deriving DecidableEq, Repr

namespace StreamItem

/-- What is asked for when an item is read. -/
inductive Kind where
  /-- A bit. -/
  | bool
  /-- A word of some bits. -/
  | bits (width : Nat)
  /-- A count. -/
  | count
  /-- An integer. -/
  | integer
  /-- A text that may be absent. -/
  | text
deriving DecidableEq, Repr

/-- The kind of an item. -/
def kind : StreamItem → Kind
  | .bool _ => .bool
  | .bits width _ => .bits width
  | .count _ => .count
  | .integer _ => .integer
  | .text _ => .text

end StreamItem

namespace PackWriter

/-- Writes an item. -/
def writeItem : StreamItem → PackWriter → Option PackWriter
  | .bool value, writer => some (writer.writeBool value)
  | .bits width value, writer => some (writer.writeBits width value)
  | .count value, writer => writer.writeCount value
  | .integer value, writer => writer.writeInteger value
  | .text value, writer => writer.writeText value

/-- Writes items in order. -/
def writeItems : List StreamItem → PackWriter → Option PackWriter
  | [], writer => some writer
  | item :: items, writer => (writer.writeItem item).bind fun writer => writer.writeItems items

end PackWriter

namespace PackReader

/-- Reads an item. -/
def readItem : StreamItem.Kind → PackReader StreamItem
  | .bool => return .bool (← readBool)
  | .bits width => return .bits width (.ofNat (← readBits width))
  | .count => return .count (← readCount)
  | .integer => return .integer (← readInteger)
  | .text => return .text (← readOptional)

/-- Reads items in order. -/
def readItems : List StreamItem.Kind → PackReader (List StreamItem)
  | [] => return []
  | kind :: kinds => do
    let first ← readItem kind
    let rest ← readItems kinds
    return first :: rest

end PackReader

end Phrasebook
