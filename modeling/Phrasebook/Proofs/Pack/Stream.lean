import Phrasebook.Pack.Stream
import Phrasebook.Proofs.Pack.Integers

/-! # Streams are read back

    Writers and readers are compared by chunks. A step *writes* chunks if it lays them out behind what
    was written before, wherever that ends; a reader *reads* them from there. Both are closed under
    sequencing, so it is enough to say of every kind of item which chunks it stands for.

    The bits that fill the last byte, and whatever bytes come behind it, stay unread. -/

namespace Phrasebook

namespace PackWriter

/-! ### Chunks -/

section Chunks

variable {write next : PackWriter → Option PackWriter} {chunks rest : List Chunk}

/-- Whatever was written before, the chunks are laid out behind it. -/
def Writes (write : PackWriter → Option PackWriter) (chunks : List Chunk) : Prop :=
  ∀ writer, ∃ written, write writer = some written ∧
    written.bits = writer.bits ++ layout writer.bits.length chunks

theorem writes_nil : Writes some [] := fun writer => ⟨writer, rfl, (List.append_nil _).symm⟩

theorem writes_of_bits {step : PackWriter → PackWriter} {bits : Bits}
    (h : ∀ writer, (step writer).bits = writer.bits ++ bits) :
    Writes (fun writer => some (step writer)) [.bits bits] := by
  intro writer
  refine ⟨step writer, rfl, ?_⟩
  rw [h, layout, layout, List.append_nil]

theorem Writes.bind (h : Writes write chunks) (hn : Writes next rest) :
    Writes (fun writer => (write writer).bind next) (chunks ++ rest) := by
  intro writer
  obtain ⟨middle, hmiddle, hbits⟩ := h writer
  obtain ⟨written, hwritten, hbits'⟩ := hn middle
  refine ⟨written, by simp only [hmiddle, Option.bind_some, hwritten], ?_⟩
  -- the second step starts where the first one ends
  have hlength : middle.bits.length = layoutEnd writer.bits.length chunks := by
    rw [hbits, List.length_append, length_layout]
  rw [hbits', hlength, hbits, List.append_assoc, layout_append]

/-- Two runs of bits behind each other are one run. -/
theorem Writes.join {front back : Bits} (h : Writes write (.bits front :: .bits back :: chunks)) :
    Writes write (.bits (front ++ back) :: chunks) := by
  intro writer
  obtain ⟨written, hwritten, hbits⟩ := h writer
  refine ⟨written, hwritten, ?_⟩
  simpa only [layout, List.append_assoc, List.length_append, Nat.add_assoc] using hbits

end Chunks

/-! ### Numbers -/

theorem writes_writeBits {width : Nat} (h : width ≤ 64) (value : UInt64) :
    Writes (fun writer => some (writer.writeBits width value))
      [.bits (bitsOf width value.toNat)] :=
  writes_of_bits fun writer => writer.bits_writeBits h value

/-- A mark and a short number in one word. -/
theorem writes_marked (high low mark : Nat) {value : Nat} (h : value < 1 <<< low)
    (hw : high + low ≤ 64) (hm : mark <<< low < UInt64.size) :
    Writes (fun writer => some (writer.writeBits (high + low)
        (.ofNat (mark <<< low) ||| .ofNat value)))
      [.bits (bitsOf high mark ++ bitsOf low value)] := by
  have hvalue : value < UInt64.size := by
    refine Nat.lt_of_lt_of_le h ?_
    rw [Nat.one_shiftLeft]
    exact Nat.pow_le_pow_right (by decide) (by omega : low ≤ 64)
  have hword : (UInt64.ofNat (mark <<< low) ||| UInt64.ofNat value).toNat =
      mark <<< low ||| value := by
    rw [UInt64.toNat_or, UInt64.toNat_ofNat_of_lt' hm, UInt64.toNat_ofNat_of_lt' hvalue]
  have hwrites := writes_writeBits hw (UInt64.ofNat (mark <<< low) ||| UInt64.ofNat value)
  rwa [hword, bitsOf_or _ _ _ _ h] at hwrites

theorem writes_writeInteger (value : Int64) :
    Writes (writeInteger value) [.bits (integerBits value)] := by
  intro writer
  obtain ⟨written, hwritten, hbits⟩ := writer.bits_writeInteger value
  exact ⟨written, hwritten, by rw [hbits, layout, layout, List.append_nil]⟩

/-- Counts and lengths that have no short form are integers behind two bits. -/
theorem writes_long (value : Int64) :
    Writes (fun writer => (writer.writeBits 2 0b11).writeInteger value)
      [.bits ([true, true] ++ integerBits value)] :=
  ((writes_writeBits (by decide) 0b11).bind (writes_writeInteger value)).join

theorem writes_writeCount (count : Nat) : Writes (writeCount count) [.bits (countBits count)] := by
  intro writer
  unfold writeCount countBits
  split
  · rename_i hc
    have hword : (UInt64.ofNat count).toNat = count :=
      UInt64.toNat_ofNat_of_lt' (Nat.lt_trans hc (by decide))
    have hwrites := writes_writeBits (by decide : 4 ≤ 64) (.ofNat count)
    rw [hword] at hwrites
    exact hwrites writer
  split
  · have hlt : count - 8 < 1 <<< 3 := by
      rw [Nat.one_shiftLeft]
      omega
    exact writes_marked 2 3 2 hlt (by decide) (by decide) writer
  · exact writes_long (.ofNat count) writer

/-! ### Texts -/

theorem writes_writeLength (length : Nat) :
    Writes (writeLength length) [.bits (lengthBits length)] := by
  intro writer
  unfold writeLength lengthBits
  split
  · rename_i hl
    exact writes_marked 2 4 1 hl (by decide) (by decide) writer
  split
  · rename_i hl
    exact writes_marked 2 8 2 hl (by decide) (by decide) writer
  · exact writes_long (.ofNat length) writer

theorem writes_writeBytes (bytes : List UInt8) :
    Writes (fun writer => some (writer.writeBytes bytes)) [.bytes bytes] := by
  intro writer
  refine ⟨writer.writeBytes bytes, rfl, ?_⟩
  rw [bits_writeBytes, bits_align, layout, layout, List.append_nil, List.append_assoc]

/-- Only the bytes of a text start at the beginning of a byte, and only if there are any. -/
theorem writes_writeText (text : Option String) :
    Writes (writeText text) (optionalChunks text) := by
  cases text with
  | none => exact writes_writeBits (by decide) 0
  | some text =>
    have hbytes : Writes
        (fun writer => some (if (utf8Bytes text).isEmpty then writer
          else writer.writeBytes (utf8Bytes text)))
        (if (utf8Bytes text).isEmpty then [] else [.bytes (utf8Bytes text)]) := by
      split
      · exact writes_nil
      · exact writes_writeBytes (utf8Bytes text)
    intro writer
    obtain ⟨written, hwritten, hbits⟩ :=
      (writes_writeLength (utf8Bytes text).length).bind hbytes writer
    refine ⟨written, ?_, hbits⟩
    rw [writeText, ← hwritten, Option.map_eq_bind]
    rfl

end PackWriter

/-! ### Items -/

namespace StreamItem

/-- The item can be told in a stream: the width is that of a word, and counts and lengths of texts
    are 64-bit integers. -/
def Fits : StreamItem → Prop
  | .bits width _ => width ≤ 64
  | .count value => value < countLimit
  | .text value => ∀ text ∈ value, FitsLength text
  | .bool _ | .integer _ => True

instance (item : StreamItem) : Decidable item.Fits :=
  match item with
  | .bits width _ => inferInstanceAs (Decidable (width ≤ 64))
  | .count value => inferInstanceAs (Decidable (value < countLimit))
  | .text value => inferInstanceAs (Decidable (∀ text ∈ value, FitsLength text))
  | .bool _ => inferInstanceAs (Decidable True)
  | .integer _ => inferInstanceAs (Decidable True)

/-- The item as it is read: of a word the lowest bits. -/
def lowered : StreamItem → StreamItem
  | .bits width value => .bits width (.ofNat (value.toNat % (1 <<< width)))
  | item => item

/-- The chunks of an item. -/
def chunks : StreamItem → List Chunk
  | .bool value => [.bits [value]]
  | .bits width value => [.bits (bitsOf width value.toNat)]
  | .count value => [.bits (countBits value)]
  | .integer value => [.bits (integerBits value)]
  | .text value => optionalChunks value

/-- What is written for an item are its chunks. -/
theorem writes_chunks {item : StreamItem} (h : item.Fits) :
    PackWriter.Writes (PackWriter.writeItem item) item.chunks := by
  cases item with
  | bool value => exact PackWriter.writes_of_bits fun writer => writer.bits_writeBool value
  | bits width value => exact PackWriter.writes_writeBits h value
  | count value => exact PackWriter.writes_writeCount value
  | integer value => exact PackWriter.writes_writeInteger value
  | text value => exact PackWriter.writes_writeText value

/-- Where the chunks of an item are asked for its kind, the item is read. -/
theorem reads_chunks {item : StreamItem} (h : item.Fits) :
    (PackReader.readItem item.kind).Reads item.chunks item.lowered := by
  cases item with
  | bool value => exact (PackReader.reads_readBool value).map StreamItem.bool
  | bits width value =>
    exact (PackReader.reads_readBits h value.toNat).map fun n => StreamItem.bits width (.ofNat n)
  | count value => exact (PackReader.reads_readCount h).map StreamItem.count
  | integer value => exact (PackReader.reads_readInteger value).map StreamItem.integer
  | text value => exact (PackReader.reads_readOptional h).map StreamItem.text

/-! ### Streams -/

variable {items : List StreamItem}

theorem writes_writeItems (h : ∀ item ∈ items, item.Fits) :
    PackWriter.Writes (PackWriter.writeItems items) (items.flatMap chunks) := by
  induction items with
  | nil => exact PackWriter.writes_nil
  | cons item items ih =>
    rw [List.forall_mem_cons] at h
    rw [List.flatMap_cons]
    exact (writes_chunks h.1).bind (ih h.2)

theorem reads_readItems (h : ∀ item ∈ items, item.Fits) :
    (PackReader.readItems (items.map kind)).Reads (items.flatMap chunks) (items.map lowered) := by
  induction items with
  | nil => exact PackReader.reads_pure []
  | cons item items ih =>
    rw [List.forall_mem_cons] at h
    rw [List.flatMap_cons]
    exact (reads_chunks h.1).bind ((ih h.2).map (item.lowered :: ·))

/-- Items that are written to a new writer are read back in the same order, whatever bytes follow,
    and the reader ends where the writer ended. The bytes of the writer are those of the layout of
    the items. -/
theorem readItems_writeItems (h : ∀ item ∈ items, item.Fits) :
    ∃ writer, PackWriter.writeItems items {} = some writer ∧
      writer.finish = packedBytes (items.flatMap chunks) ∧
      ∀ behind : List UInt8, ∃ source,
        (PackReader.readItems (items.map kind)).run (.ofBytes (writer.finish ++ behind)) =
          (.ok (items.map lowered), source) ∧
        source.position = writer.bits.length := by
  obtain ⟨writer, hwriter, hbits⟩ := writes_writeItems h {}
  have hlayout : writer.bits = layout 0 (items.flatMap chunks) := hbits
  refine ⟨writer, hwriter, ?_, ?_⟩
  · rw [PackWriter.finish_eq, hlayout, packedBytes]
  · intro behind
    -- the bits of the bytes are those of the writer, and zeros up to the next byte
    have hread := reads_readItems h 0
      (List.replicate (padding writer.bits.length) false ++ bitsOfBytes behind)
    rw [← hlayout, ← List.append_assoc, ← bitsOfBytes_bytesOfBits, ← PackWriter.finish_eq,
      ← bitsOfBytes_append] at hread
    refine ⟨_, hread, ?_⟩
    rw [← length_layout, ← hlayout, Nat.zero_add]

/-- One item of every kind, a word of which bits are lost, and a byte behind them. -/
theorem readItems_writeItems_kinds :
    let items : List StreamItem :=
      [.bool true, .bits 3 13, .count 16, .text (some ""), .integer (-9), .text none, .text (some "ü")]
    ∃ writer, PackWriter.writeItems items {} = some writer ∧
      writer.finish = [0xDE, 0x08, 0x42, 0xFF, 0xE2, 0x40, 0xC3, 0xBC] ∧
      ∃ source, (PackReader.readItems (items.map kind)).run (.ofBytes (writer.finish ++ [0xFF])) =
        (.ok [.bool true, .bits 3 5, .count 16, .text (some ""), .integer (-9), .text none,
          .text (some "ü")], source) := by
  intro items
  have hfits : ∀ item ∈ items, item.Fits := by decide
  obtain ⟨writer, hwriter, hfinish, hread⟩ := readItems_writeItems hfits
  obtain ⟨source, hsource, -⟩ := hread [0xFF]
  exact ⟨writer, hwriter, hfinish.trans (by decide), source, hsource⟩

end StreamItem

end Phrasebook
