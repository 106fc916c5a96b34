import Phrasebook.Gzip.Inflate

/-!
# Members of gzip files

A member is a header, compressed data, and a trailer with a checksum and the size of what was
compressed. Members are written with stored blocks, and read whatever way they were compressed.
-/

namespace Phrasebook.Gzip

/-! ## Checksums -/

/-- One bit of the division that the checksum is the remainder of. -/
def checksumStep (sum : UInt32) : UInt32 :=
  if sum &&& 1 = 1 then (sum >>> 1) ^^^ 0xEDB88320 else sum >>> 1

/-- Eight bits of it. -/
def checksumByte (sum : UInt32) (byte : UInt8) : UInt32 :=
  (List.range 8).foldl (fun sum _ => checksumStep sum) (sum ^^^ byte.toUInt32)

/-- The cyclic redundancy check of bytes, with 32 bits. -/
def checksum (bytes : List UInt8) : UInt32 :=
  bytes.foldl checksumByte 0xFFFFFFFF ^^^ 0xFFFFFFFF

/-! ## Numbers -/

/-- A number in some bytes, the lowest one first. -/
def numberBytes : (count value : Nat) → List UInt8
  | 0, _ => []
  | count + 1, value => UInt8.ofNat value :: numberBytes count (value / 256)

/-- The number that bytes stand for, the lowest one first. -/
def numberOfBytes (bytes : List UInt8) : Nat :=
  bytes.foldr (fun byte value => byte.toNat + 256 * value) 0

/-- Cuts bytes off, if there are that many. -/
def cut? (count : Nat) (bytes : List UInt8) : Option (List UInt8 × List UInt8) :=
  if bytes.length < count then none else some (bytes.splitAt count)

/-! ## Writing -/

/-- The most bytes of a stored block. -/
def storedLimit : Nat := 65535

/-- Stored blocks of bytes. -/
def storedBlocks (bytes : List UInt8) : List UInt8 :=
  let block (last : UInt8) (content : List UInt8) : List UInt8 :=
    last :: numberBytes 2 content.length ++ numberBytes 2 (storedLimit - content.length) ++ content
  if _h : storedLimit < bytes.length then
    block 0 (bytes.take storedLimit) ++ storedBlocks (bytes.drop storedLimit)
  else block 1 bytes
termination_by bytes.length
decreasing_by
  simp [storedLimit] at _h ⊢
  omega

/-- The first bytes of a member that says nothing about itself. -/
def plainHeader : List UInt8 := [0x1F, 0x8B, 8, 0, 0, 0, 0, 0, 0, 255]

/-- A member that holds bytes. -/
def member (bytes : List UInt8) : List UInt8 :=
  plainHeader ++ storedBlocks bytes ++ numberBytes 4 (checksum bytes).toNat ++
    numberBytes 4 bytes.length

/-! ## Reading -/

/-- The most bytes in a text of a header. -/
def textLimit : Nat := 65535

/-- Drops a text that ends with a zero byte. -/
def dropText? (bytes : List UInt8) : Option (List UInt8) :=
  match bytes.dropWhile (· != 0) with
  | _ :: rest => if textLimit < bytes.length - rest.length - 1 then none else some rest
  | [] => none

/-- Drops an extra field, which begins with its length. -/
def dropExtra? (bytes : List UInt8) : Option (List UInt8) := do
  let (length, rest) ← cut? 2 bytes
  let (_, rest) ← cut? (numberOfBytes length) rest
  return rest

/-- Drops the checksum of the header in front of it, and tells whether it is right. -/
def dropHeaderSum? (header bytes : List UInt8) : Option (List UInt8) := do
  let (sum, rest) ← cut? 2 bytes
  if numberOfBytes sum = (checksum header).toNat % 0x10000 then return rest else none

/-- Drops the header of a member: its mark, the fields of fixed size, and those that its flags
    announce. -/
def dropHeader? (bytes : List UInt8) : Option (List UInt8) := do
  let (fixed, rest) ← cut? 10 bytes
  match fixed with
  | 0x1F :: 0x8B :: 8 :: flags :: _ =>
    if 0x20 ≤ flags.toNat then none
    else
      let rest ← if flags.toNat.testBit 2 then dropExtra? rest else some rest
      let rest ← if flags.toNat.testBit 3 then dropText? rest else some rest
      let rest ← if flags.toNat.testBit 4 then dropText? rest else some rest
      if flags.toNat.testBit 1 then
        dropHeaderSum? (bytes.take (bytes.length - rest.length)) rest
      else return rest
  | _ => none

/-- The bytes that the first member holds. What is behind it is passed over. -/
def read? (bytes : List UInt8) : Option (List UInt8) := do
  let data ← dropHeader? bytes
  let (content, left) ← inflate? data
  let (trailer, _) ← cut? 8 (data.drop (data.length - left))
  let (sum, size) := trailer.splitAt 4
  if numberOfBytes sum = (checksum content).toNat ∧
      numberOfBytes size = content.length % 0x100000000 then
    return content
  else none

end Phrasebook.Gzip
