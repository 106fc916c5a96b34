import Phrasebook.Proofs.Locale
import Phrasebook.Proofs.Pack.Messages
import Phrasebook.Proofs.Template.Messages

/-! # What is packed is unpacked

    Messages as programs make them are unpacked as they were packed if all of them are packable, and
    contradict the format otherwise. Every message that templates are read as is packable. -/

namespace Phrasebook

/-- Messages as programs make them: locales are read from tags, keys in settings are distinct, and
    string values are built by the program or read in templates. Texts and lists fit into memory,
    which ends below `countLimit`. -/
def Message.Made : Message → Prop :=
  Message.AllSound QuotedText.Built fun l => ∃ tag, Locale.parse tag = .ok l

/-- What programs make is what the reader can follow. -/
theorem Message.Made.readable {message : Message} (h : message.Made) :
    message.AllSound QuotedText.Faithful Locale.Readable := by
  have hlocale (l : Locale) : (∃ tag, Locale.parse tag = .ok l) → l.Readable := by
    rintro ⟨tag, hl⟩
    exact Locale.parse_tag hl
  exact h.imp fun _ hs => hs.imp (fun _ hq => hq.faithful) hlocale

/-! ### Messages of templates -/

theorem Message.shaped_ofParts (parts : List Part) : (Message.ofParts parts).Shaped := by
  rcases Message.ofParts_cases parts with he | ⟨part, he⟩ | ⟨all, he, hlen⟩ <;> rw [he]
  · trivial
  · trivial
  · exact hlen

theorem Message.isPlain_ofParts (parts : List Part) : (Message.ofParts parts).isPlain = true := by
  rcases Message.ofParts_cases parts with he | ⟨part, he⟩ | ⟨all, he, -⟩ <;> rw [he] <;> rfl

theorem Message.code?_of_isPlain {message : Message} (h : message.isPlain = true) :
    message.code? = none := by
  cases message <;> first | rfl | simp [isPlain] at h

namespace Template

/-- The message of a template is plain, and packable with no message below it. -/
theorem plain_of_parse {source : String} {message : Message} (h : parse source = .ok message) :
    message.isPlain = true ∧ message.PackableWithin 1 := by
  have hinners := inners_of_parse h
  obtain ⟨parts, rfl⟩ := exists_parts_of_parse h
  refine ⟨Message.isPlain_ofParts parts, Message.packableWithin_succ_iff.2 ?_⟩
  exact ⟨Message.shaped_ofParts parts, by simp [hinners]⟩

/-- A code in front of a message without a code. -/
theorem packableWithin_coded {limit : Nat} {code : String} {message : Message}
    (hc : message.code? = none) (h : message.PackableWithin limit) :
    (Message.coded code message).PackableWithin (limit + 1) :=
  Message.packableWithin_succ_iff.2 ⟨hc, by simpa [Message.inners] using h⟩

theorem plain_of_parseVariants {code : Option String} {templates : List (Locale × String)}
    {variants : List (Locale × Message)} (h : parseVariants code templates = .ok variants) :
    ∀ variant ∈ variants, variant.2.isPlain = true ∧ variant.2.PackableWithin 1 := by
  induction templates generalizing variants with
  | nil =>
    obtain rfl := Except.ok.inj h
    simp
  | cons template templates ih =>
    obtain ⟨locale, source⟩ := template
    rw [parseVariants, parseVariant] at h
    obtain ⟨message, hmessage, h⟩ := exists_of_bind_eq_ok h
    obtain ⟨rest, hrest, h⟩ := exists_of_bind_eq_ok h
    have hp : parse source = .ok message := eq_ok_of_mapError_eq_ok hmessage
    obtain rfl := Except.ok.inj h
    exact List.forall_mem_cons.2 ⟨plain_of_parse hp, ih hrest⟩

/-- Plain variants make a packable message without a code. -/
theorem packableWithin_ofVariants {variants : List (Locale × Message)}
    (h : ∀ variant ∈ variants, variant.2.isPlain = true ∧ variant.2.PackableWithin 1) :
    (ofVariants variants).code? = none ∧ (ofVariants variants).PackableWithin 2 := by
  unfold ofVariants
  split
  · refine ⟨rfl, Message.packableWithin_succ_iff.2 ⟨trivial, ?_⟩⟩
    simp [Message.inners, Message.parts]
  · rename_i hne
    rw [List.isEmpty_iff] at hne
    refine ⟨rfl, Message.packableWithin_succ_iff.2 ⟨⟨hne, fun v hv => (h v hv).1⟩, ?_⟩⟩
    exact List.forall_mem_map.2 fun v hv => (h v hv).2

theorem packable_of_parse {source : String} {message : Message} (h : parse source = .ok message) :
    message.Packable :=
  (plain_of_parse h).2.mono (by decide)

theorem packable_of_parseCoded {code source : String} {message : Message}
    (h : parseCoded code source = .ok message) : message.Packable := by
  obtain ⟨inner, hp, rfl⟩ := parseCoded_eq_ok_iff.1 h
  obtain ⟨hplain, hinner⟩ := plain_of_parse hp
  exact (packableWithin_coded (Message.code?_of_isPlain hplain) hinner).mono (by decide)

theorem packable_of_parseLocalized {code : Option String} {templates : List (Locale × String)}
    {message : Message} (h : parseLocalized code templates = .ok message) : message.Packable := by
  unfold parseLocalized at h
  obtain ⟨variants, hv, rfl⟩ := exists_of_map_eq_ok h
  obtain ⟨hcode, hvariants⟩ := packableWithin_ofVariants (plain_of_parseVariants hv)
  cases code with
  | none => exact hvariants.mono (by decide)
  | some code => exact (packableWithin_coded hcode hvariants).mono (by decide)

end Template

/-! ### Round trip -/

/-- Messages as programs make them are unpacked as they were packed if all of them are packable, and
    else the pack contradicts itself. The messages of templates are packable. -/
theorem unpackMessages_packMessages :
    (∀ messages : List Message, messages.length < countLimit →
      (∀ message ∈ messages, message.Made) →
        ((∀ message ∈ messages, message.Packable) →
          unpackMessages (packMessages false messages) = .ok messages) ∧
        ((∃ message ∈ messages, ¬ message.Packable) →
          ∃ contradiction,
            unpackMessages (packMessages false messages) =
              .error (.inconsistent contradiction))) ∧
    (∀ source message, Template.parse source = .ok message → message.Packable) ∧
    (∀ code source message, Template.parseCoded code source = .ok message → message.Packable) ∧
    (∀ code templates message,
      Template.parseLocalized code templates = .ok message → message.Packable) := by
  refine ⟨fun messages hcount hmade => ?_, fun _ _ h => Template.packable_of_parse h,
    fun _ _ _ h => Template.packable_of_parseCoded h,
    fun _ _ _ h => Template.packable_of_parseLocalized h⟩
  have hs := fun message hm => (hmade message hm).readable
  refine ⟨unpackMessages_packMessages_of_packable hcount hs, ?_⟩
  -- all messages are read by one walk, which fails at the first that is not packable
  rintro ⟨message, hm, hnot⟩
  exact unpackMessages_packMessages_of_not_packable hcount hs fun h => hnot (h message hm)

/-- A code in front of variants, a string among settings, and a message that is not packable. -/
theorem unpackMessages_packMessages_variants :
    let place : Placeholder :=
      ⟨"n", none, ⟨[(.bool true, .string (.ofText "'"))], none⟩, false, false⟩
    let message : Message := .coded "c" (.localized [(.root, .single (.placeholder place))])
    unpackMessages (packMessages false [message]) = .ok [message] ∧
    (∃ contradiction, unpackMessages (packMessages false [.localized []]) =
      .error (.inconsistent contradiction)) ∧
    (∃ message, Template.parse "%\x7bn\x7d" = .ok message ∧ message.Packable) ∧
    (∃ message, Template.parseCoded "c" "%\x7bn\x7d" = .ok message ∧ message.Packable) ∧
    (∃ message, Template.parseLocalized none [(.root, "%\x7bn\x7d")] = .ok message ∧
      message.Packable) := by
  intro place message
  obtain ⟨hround, hparse, hcoded, hlocalized⟩ := unpackMessages_packMessages
  have hinners : (Message.single (.placeholder place)).inners = [] := rfl
  have hsettings : place.settings.Sound QuotedText.Built := by
    refine ⟨List.nodup_cons.2 ⟨List.not_mem_nil, List.nodup_nil⟩, by decide, ?_, ?_⟩
    · exact List.forall_mem_singleton.2 trivial
    · exact List.forall_mem_singleton.2 ⟨by decide, .ofText "'"⟩
  have hmade : message.Made := by
    refine ⟨(by decide : FitsLength "c"), List.forall_mem_singleton.2 ⟨⟨by decide, ?_⟩, ?_⟩⟩
    · exact List.forall_mem_singleton.2 ⟨(by decide : FitsLength ""), "", rfl⟩
    · refine List.forall_mem_singleton.2 (.of_inners_eq_nil ⟨by decide, ?_⟩ hinners)
      exact List.forall_mem_singleton.2 ⟨(by decide : FitsLength "n"), by simp [place], hsettings⟩
  have hpackable : message.Packable := by
    refine Message.packableWithin_succ_iff.2 ⟨rfl, List.forall_mem_singleton.2 ?_⟩
    refine Message.packableWithin_succ_iff.2
      ⟨⟨by simp, List.forall_mem_singleton.2 rfl⟩, List.forall_mem_singleton.2 ?_⟩
    exact Message.packableWithin_succ_iff.2 ⟨trivial, by simp [hinners]⟩
  have hempty : (Message.localized []).Made := ⟨⟨by decide, by simp⟩, by simp [Message.inners]⟩
  let parsed : Message := .single (.placeholder ⟨"n", none, {}, false, false⟩)
  have htemplate : Template.parse "%\x7bn\x7d" = .ok parsed := by
    let tree : TemplateTree :=
      ⟨[.place ⟨⟨⟨.placeholderStart, 0, 2, "%\x7b"⟩, rfl⟩, ⟨.name, 2, 3, "n"⟩, .none,
        ⟨⟨.placeholderEnd, 3, 4, "\x7d"⟩, rfl⟩, .inl (.inl rfl)⟩], ⟨⟨.eof, 4, 4, ""⟩, rfl⟩⟩
    have hd : tree.Distinct := by
      simp [tree, TemplateTree.Distinct, ItemTree.Distinct, PlaceTree.Distinct,
        DetailsTree.settings?]
    have htokens : tokenize "%\x7bn\x7d" = .ok tree.tokens := by
      show scanTokens 4 .text ['%', '\x7b', 'n', '\x7d'] = _
      refine scanTokens_of_step ⟨[_], .placeholder 0 0, ['n', '\x7d']⟩ rfl ?_
      refine scanTokens_of_step ⟨[_], .placeholder 0 0, ['\x7d']⟩ rfl ?_
      exact scanTokens_of_step ⟨[_], .text, []⟩ rfl (scanTokens_of_end rfl)
    exact Template.parse_eq_ok_iff.2 (Template.parse?_eq_ok_iff.2 ⟨tree, htokens, hd, rfl⟩)
  refine ⟨(hround [message] (by decide) (List.forall_mem_singleton.2 hmade)).1
      (List.forall_mem_singleton.2 hpackable),
    (hround [.localized []] (by decide) (List.forall_mem_singleton.2 hempty)).2
      ⟨_, List.mem_singleton_self _, fun h => h.2.here.1 rfl⟩,
    ⟨_, htemplate, hparse _ _ htemplate⟩, ?_, ?_⟩
  · have h : Template.parseCoded "c" "%\x7bn\x7d" = .ok (.coded "c" parsed) := by
      rw [Template.parseCoded, htemplate]
    exact ⟨_, h, hcoded _ _ _ h⟩
  · have h : Template.parseLocalized none [(.root, "%\x7bn\x7d")] =
        .ok (.localized [(.root, parsed)]) := by
      rw [Template.parseLocalized, Template.parseVariants, Template.parseVariants,
        Template.parseVariant, htemplate]
      rfl
    exact ⟨_, h, hlocalized _ _ _ h⟩

end Phrasebook
