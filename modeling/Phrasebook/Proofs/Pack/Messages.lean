import Phrasebook.Pack.Envelope
import Phrasebook.Proofs.Pack.Parts

/-! # Packed messages are read back, or refused

    The reader accepts what is `Packable`: a bounded number of messages inside each other, and at
    every message a shape that its constructor is meant for. Whatever else is written is refused as
    a contradiction, and nothing is read as another message.

    The proof is an induction on the messages that may still lie inside each other, the budget of
    the reader. -/

namespace Phrasebook

/-- The message makes use of its constructor: several parts are at least two, variants are there and
    are plain, and a code does not stand in front of a code. -/
def Message.Shaped : Message → Prop
  | .multiple parts => 2 ≤ parts.length
  | .localized variants => variants ≠ [] ∧ ∀ variant ∈ variants, variant.2.isPlain
  | .coded _ message => message.code? = none
  | _ => True

/-- At most `limit` messages lie on a path, and every message of the tree is shaped. -/
def Message.PackableWithin (limit : Nat) (message : Message) : Prop :=
  message.Within limit ∧ message.Everywhere Message.Shaped

/-- What a pack gives back. -/
def Message.Packable : Message → Prop := Message.PackableWithin nestingLimit

theorem Message.packableWithin_succ_iff {limit : Nat} {message : Message} :
    message.PackableWithin (limit + 1) ↔
      message.Shaped ∧ ∀ inner ∈ message.inners, inner.PackableWithin limit := by
  rw [PackableWithin, Everywhere.iff]
  constructor
  · rintro ⟨hw, hs, hi⟩
    exact ⟨hs, fun inner h => ⟨hw inner h, hi inner h⟩⟩
  · rintro ⟨hs, h⟩
    exact ⟨fun inner hi => (h inner hi).1, hs, fun inner hi => (h inner hi).2⟩

theorem Message.PackableWithin.mono {limit more : Nat} {message : Message}
    (h : message.PackableWithin limit) (hle : limit ≤ more) : message.PackableWithin more :=
  ⟨h.1.mono hle, h.2⟩

/-- Every message of the tree has sound fields. -/
def Message.AllSound (string : QuotedText → Prop) (locale : Locale → Prop) : Message → Prop :=
  Message.Everywhere (Message.Sound string locale)

namespace PackReader

/-! ### Messages -/

variable {message : PackReader Message} {good : Message → Prop}

theorem readsIf_readVariant {variant : Locale × Message} (hfits : FitsLength variant.1.tag)
    (hl : variant.1.Readable) (hm : message.ReadsIf variant.2.chunks (good variant.2) variant.2) :
    (readVariant message).ReadsIf (textChunks variant.1.tag ++ variant.2.chunks)
      (good variant.2 ∧ variant.2.isPlain) variant := by
  obtain ⟨locale, inner⟩ := variant
  refine (reads_readText "locale" hfits).bind_readsIf ?_
  simp only [show Locale.parse locale.tag = .ok locale from hl]
  refine hm.then ?_
  exact ReadsIf.congr ((readsIf_pure (locale, inner)).provided _) (iff_of_eq (and_true _))

theorem parts_chunks_eq (parts : List Part) : Part.allChunks parts = parts.flatMap Part.chunks := by
  induction parts with
  | nil => rfl
  | cons part parts ih => rw [Part.allChunks, ih, List.flatMap_cons]

theorem variantChunks_eq (variants : List (Locale × Message)) :
    Message.variantChunks variants =
      variants.flatMap fun variant => textChunks variant.1.tag ++ variant.2.chunks := by
  induction variants with
  | nil => rfl
  | cons variant variants ih => rw [Message.variantChunks, ih, List.flatMap_cons]

/-- Reading with a budget gives exactly the messages back that are packable within it. -/
theorem readsIf_readMessage (budget : Nat) {message : Message}
    (hs : message.AllSound QuotedText.Faithful Locale.Readable) :
    (readMessage budget).ReadsIf message.chunks (message.PackableWithin budget) message := by
  induction budget generalizing message with
  | zero =>
    -- no message may stand here, whatever it is
    exact ⟨fun h => absurd h.1 id, fun _ => refuses_refuse .tooDeep _⟩
  | succ budget ih =>
    have hinner : ∀ inner ∈ message.inners,
        (readMessage budget).ReadsIf inner.chunks (inner.PackableWithin budget) inner :=
      fun inner hi => ih (hs.inners inner hi)
    refine ReadsIf.congr ?_ Message.packableWithin_succ_iff.symm
    -- the fields of the root are sound, and what is inside is read with a smaller budget
    have hhere := hs.here
    cases message with
    | empty =>
      have h : (readMessage (budget + 1)).Reads Message.empty.chunks .empty :=
        (reads_readTag (by decide) (by decide : 0 < 1 <<< 3)).bind (reads_pure _)
      exact h.readsIf.congr (by simp [Message.Shaped, Message.inners, Message.parts])
    | single part =>
      have hpart := readsIf_readPart (hhere.2 part (by simp [Message.parts]))
        (fun inner hi => hinner inner (by simpa [Message.inners, Message.parts] using hi))
      have h : (readMessage (budget + 1)).ReadsIf (Message.single part).chunks _ (.single part) :=
        (reads_readTag (by decide) (by decide : 1 < 1 <<< 3)).bind_readsIf
          (hpart.map Message.single)
      exact h.congr (by simp [Message.Shaped, Message.inners, Message.parts])
    | multiple parts =>
      have hparts := readsIf_readMany fun part hp =>
        readsIf_readPart (hhere.2 part hp) fun inner hi =>
          hinner inner (List.mem_flatMap.2 ⟨part, hp, hi⟩)
      rw [← parts_chunks_eq] at hparts
      have h : (readMessage (budget + 1)).ReadsIf (Message.multiple parts).chunks _
          (.multiple parts) :=
        (reads_readTag (by decide) (by decide : 2 < 1 <<< 3)).bind_readsIf <|
          (reads_readCount hhere.1).bind_readsIf <|
            (hparts.map Message.multiple).unless (.fewParts parts.length)
      refine h.congr (and_congr (by simp only [Message.Shaped, Message.parts, Nat.not_lt]) ?_)
      simp only [Message.inners, Message.parts, List.mem_flatMap]
      constructor
      · rintro h inner ⟨part, hp, hi⟩
        exact h part hp inner hi
      · intro h part hp inner hi
        exact h inner ⟨part, hp, hi⟩
    | localized variants =>
      -- every variant is checked as it is read, and that there is one is checked behind them
      have hvariants := readsIf_readMany fun variant hv =>
        readsIf_readVariant (hhere.2 variant hv).1 (hhere.2 variant hv).2
          (hinner variant.2 (List.mem_map_of_mem hv))
      rw [← variantChunks_eq] at hvariants
      have h : (readMessage (budget + 1)).ReadsIf (Message.localized variants).chunks _
          (.localized variants) :=
        (reads_readTag (by decide) (by decide : 3 < 1 <<< 3)).bind_readsIf <|
          (reads_readCount hhere.1).bind_readsIf <|
            hvariants.then <| (readsIf_pure (Message.localized variants)).unless .noVariants
      refine h.congr ?_
      simp only [Message.Shaped, Message.inners, List.forall_mem_map, List.isEmpty_iff, and_true,
        ne_eq]
      constructor
      · rintro ⟨h, hne⟩
        exact ⟨⟨hne, fun v hv => (h v hv).2⟩, fun v hv => (h v hv).1⟩
      · rintro ⟨⟨hne, hp⟩, h⟩
        exact ⟨fun v hv => ⟨h v hv, hp v hv⟩, hne⟩
    | coded code inner =>
      have h : (readMessage (budget + 1)).ReadsIf (Message.coded code inner).chunks _
          (.coded code inner) :=
        (reads_readTag (by decide) (by decide : 4 < 1 <<< 3)).bind_readsIf <|
          (reads_readText "message code" hhere).bind_readsIf <|
            (hinner inner (by simp [Message.inners])).then <|
              (readsIf_pure (Message.coded code inner)).unless (.nestedCode code)
      refine h.congr ?_
      simp [Message.Shaped, Message.inners, and_comm]

/-! ### Bodies -/

theorem readsIf_readBody {messages : List Message} (hcount : messages.length < countLimit)
    (hs : ∀ message ∈ messages, message.AllSound QuotedText.Faithful Locale.Readable) :
    readBody.ReadsIf (bodyChunks messages) (∀ message ∈ messages, message.Packable) messages := by
  have hmany := readsIf_readMany fun message hm => readsIf_readMessage nestingLimit (hs message hm)
  exact (reads_readCount hcount).bind_readsIf hmany

end PackReader

/-- A reader that starts at the first byte finds the chunks of a pack there; the zeros that fill the
    last byte stand behind them. -/
theorem ofBytes_packedBytes (chunks : List Chunk) :
    ∃ zeros, BitSource.ofBytes (packedBytes chunks) = ⟨0, layout 0 chunks ++ zeros⟩ := by
  refine ⟨List.replicate (padding (layout 0 chunks).length) false, ?_⟩
  rw [BitSource.ofBytes, packedBytes, bitsOfBytes_bytesOfBits]

theorem openBody_sealBody (body : List UInt8) : openBody (sealBody false body) = .ok body := rfl

section Sound

variable {messages : List Message} (hcount : messages.length < countLimit)
  (hs : ∀ message ∈ messages, message.AllSound QuotedText.Faithful Locale.Readable)

include hcount hs

/-- Packable messages are unpacked as they were packed. -/
theorem unpackMessages_packMessages_of_packable
    (hp : ∀ message ∈ messages, message.Packable) :
    unpackMessages (packMessages false messages) = .ok messages := by
  obtain ⟨zeros, hz⟩ := ofBytes_packedBytes (bodyChunks messages)
  have hread := (PackReader.readsIf_readBody hcount hs).1 hp 0 zeros
  rw [packMessages, unpackMessages, openBody_sealBody]
  simp only [unpackBody, packBody, hz, hread]

/-- A message that is not packable makes the whole pack contradict itself. -/
theorem unpackMessages_packMessages_of_not_packable
    (hp : ¬ ∀ message ∈ messages, message.Packable) :
    ∃ contradiction,
      unpackMessages (packMessages false messages) = .error (.inconsistent contradiction) := by
  obtain ⟨zeros, hz⟩ := ofBytes_packedBytes (bodyChunks messages)
  obtain ⟨contradiction, source, hread⟩ := (PackReader.readsIf_readBody hcount hs).2 hp 0 zeros
  refine ⟨contradiction, ?_⟩
  rw [packMessages, unpackMessages, openBody_sealBody]
  simp only [unpackBody, packBody, hz, hread]

end Sound

end Phrasebook
