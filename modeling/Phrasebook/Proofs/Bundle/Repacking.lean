import Mathlib.Logic.Relation
import Phrasebook.Proofs.Bundle.Compiled
import Phrasebook.Proofs.Pack.Unpacked

/-! # Bundles and their packs

    A pack holds the messages of a bundle and nothing of the codes that they are listed under. Of
    the ways in which bundles come about, adding, compiling and unpacking list messages under the
    codes that they carry, and only inserting takes a code from elsewhere.

    * `Step`: what can be done with a bundle. The invariant is `Sound`, and `Own` wherever the codes
      of inserted messages are their own.
    * `unpack_pack_of_reachable`: a bundle is read back from its pack if and only if its messages
      carry the codes that they are listed under. -/

namespace Phrasebook

/-! ### Messages that readers make -/

/-- A message that is read from templates or from a pack, whatever nodes the reader of templates
    shares. Texts and lists of templates fit into memory, and locales are read from tags. -/
inductive Message.Read : Message → Prop where
  /-- A template. -/
  | template {policy : PoolPolicy} {calls : List PoolCall} {source : String}
      {shared : SharedMessage} (fits : FitsLength source)
      (read : ((Pool.parse source).run.run (Pool.after policy calls)).1 = .ok shared) :
      Read shared.message
  /-- A template with a code. -/
  | coded {policy : PoolPolicy} {calls : List PoolCall} {code source : String}
      {shared : SharedMessage} (fits : FitsLength code ∧ FitsLength source)
      (read : ((Pool.parseCoded code source).run.run (Pool.after policy calls)).1 = .ok shared) :
      Read shared.message
  /-- Localized templates, with a code if one is given. -/
  | localized {policy : PoolPolicy} {calls : List PoolCall} {code : Option String}
      {templates : List (Locale × String)} {shared : SharedMessage}
      (count : templates.length < countLimit) (fits : ∀ word ∈ code, FitsLength word)
      (each : ∀ template ∈ templates,
        (∃ tag, Locale.parse tag = .ok template.1) ∧ FitsLength template.2)
      (read : ((Pool.parseLocalized code templates).run.run (Pool.after policy calls)).1 =
        .ok shared) :
      Read shared.message
  /-- One of the messages of a pack. -/
  | pack {pack : List UInt8} {messages : List Message} {message : Message}
      (read : unpackMessages pack = .ok messages) (mem : message ∈ messages) : Read message
  /-- The only message of a pack. -/
  | only {pack : List UInt8} {message : Message} (read : unpackMessage pack = .ok message) :
      Read message

namespace Message

theorem WellFormed.of_packable {message : Message} (h : message.Packable)
    (hs : message.AllSound QuotedText.Faithful Locale.Readable) : message.WellFormed :=
  ⟨h.1, h.2, hs⟩

theorem WellFormed.packable {message : Message} (h : message.WellFormed) : message.Packable :=
  ⟨h.within, h.shaped⟩

variable {string : QuotedText → Prop} {locale : Locale → Prop}

theorem allSound_coded {code : String} {message : Message} (hc : FitsLength code)
    (h : message.AllSound string locale) : (Message.coded code message).AllSound string locale :=
  ⟨hc, List.forall_mem_singleton.2 h⟩

theorem allSound_ofVariants {variants : List (Locale × Message)}
    (hcount : variants.length < countLimit)
    (hl : ∀ variant ∈ variants, FitsLength variant.1.tag ∧ locale variant.1)
    (h : ∀ variant ∈ variants, variant.2.AllSound string locale) :
    (Template.ofVariants variants).AllSound string locale := by
  unfold Template.ofVariants
  by_cases hempty : variants.isEmpty = true
  · rw [if_pos hempty]
    refine ⟨⟨by decide, ?_⟩, ?_⟩
    · simp [parts]
    · simp [inners, parts]
  · rw [if_neg hempty]
    exact ⟨⟨hcount, hl⟩, List.forall_mem_map.2 h⟩

theorem allSound_of_parseLocalized {code : Option String} {templates : List (Locale × String)}
    {message : Message} (hcount : templates.length < countLimit)
    (hcode : ∀ word ∈ code, FitsLength word)
    (htemplates : ∀ template ∈ templates,
      (∃ tag, Locale.parse tag = .ok template.1) ∧ FitsLength template.2)
    (h : Template.parseLocalized code templates = .ok message) :
    message.AllSound QuotedText.Faithful Locale.Readable := by
  unfold Template.parseLocalized at h
  obtain ⟨variants, hv, rfl⟩ := exists_of_map_eq_ok h
  obtain ⟨hparse, rfl⟩ := Template.parseVariants_eq_ok_iff.1 hv
  have hvariants : (Template.ofVariants (templates.map fun template =>
      (template.1, Template.said template.2))).AllSound QuotedText.Faithful Locale.Readable := by
    apply allSound_ofVariants
    · rw [List.length_map]
      exact hcount
    · intro variant hv
      obtain ⟨template, ht, rfl⟩ := List.mem_map.1 hv
      obtain ⟨tag, htag⟩ := (htemplates template ht).1
      exact Locale.fits_of_parse htag
    · intro variant hv
      obtain ⟨template, ht, rfl⟩ := List.mem_map.1 hv
      exact Template.sound_of_parse (htemplates template ht).2 (hparse template ht)
  cases code with
  | none => exact hvariants
  | some code => exact allSound_coded (hcode code rfl) hvariants

theorem wellFormed_of_mem_unpackMessages {pack : List UInt8} {messages : List Message}
    (h : unpackMessages pack = .ok messages) :
    messages.length < countLimit ∧ ∀ message ∈ messages, message.WellFormed := by
  unfold unpackMessages at h
  cases hbody : openBody pack with
  | error e =>
    rw [hbody] at h
    cases h
  | ok body =>
    rw [hbody] at h
    exact PackReader.yields_readBody (.ofBytes body) messages _ (Prod.ext h rfl)

/-- Readers make well formed messages. -/
theorem Read.wellFormed {message : Message} (h : message.Read) : message.WellFormed := by
  cases h with
  | @template policy calls source shared hfits hread =>
    have hparse := (Pool.says_parse source).eq_ok (Pool.faithful_after policy calls) hread
    exact .of_packable (Template.packable_of_parse hparse)
      (Template.sound_of_parse hfits hparse)
  | @coded policy calls code source shared hfits hread =>
    have hparse := (Pool.says_parseCoded code source).eq_ok (Pool.faithful_after policy calls) hread
    refine .of_packable (Template.packable_of_parseCoded hparse) ?_
    obtain ⟨inner, hp, hcoded⟩ := Template.parseCoded_eq_ok_iff.1 hparse
    rw [hcoded]
    exact allSound_coded hfits.1 (Template.sound_of_parse hfits.2 hp)
  | @localized policy calls code templates shared hcount hcode htemplates hread =>
    have hparse :=
      (Pool.says_parseLocalized code templates).eq_ok (Pool.faithful_after policy calls) hread
    exact .of_packable (Template.packable_of_parseLocalized hparse)
      (allSound_of_parseLocalized hcount hcode htemplates hparse)
  | pack hread hmem => exact (wellFormed_of_mem_unpackMessages hread).2 _ hmem
  | @only pack _ hread =>
    unfold unpackMessage at hread
    split at hread
    · cases hread
    · rename_i other hmessages
      obtain rfl := Except.ok.inj hread
      exact (wellFormed_of_mem_unpackMessages hmessages).2 _ (List.mem_singleton_self _)
    · cases hread

theorem read_of_parse {source : String} {message : Message} (hfits : FitsLength source)
    (h : Template.parse source = .ok message) : message.Read := by
  obtain ⟨shared, hread, rfl⟩ :=
    (Pool.says_parse source).exists_ok (Pool.faithful_after .none []) h
  exact .template hfits hread

theorem read_of_parseCoded {code source : String} {message : Message}
    (hfits : FitsLength code ∧ FitsLength source)
    (h : Template.parseCoded code source = .ok message) : message.Read := by
  obtain ⟨shared, hread, rfl⟩ :=
    (Pool.says_parseCoded code source).exists_ok (Pool.faithful_after .none []) h
  exact .coded hfits hread

end Message

namespace Bundle

/-! ### What can be done with a bundle -/

/-- One call on a bundle, or one that makes a new one. Inserted messages and the codes that they are
    inserted under may be restricted. -/
inductive Step (inserted : String → Message → Prop) : Bundle → Bundle → Prop where
  /-- A message is added under its own code. -/
  | add {bundle next : Bundle} {message : Message} (read : message.Read)
      (done : bundle.add message = .ok next) : Step inserted bundle next
  /-- A message is inserted under a code. -/
  | insert {bundle next : Bundle} {code : String} {message : Message} (read : message.Read)
      (allowed : inserted code message) (done : bundle.insert code message = .ok next) :
      Step inserted bundle next
  /-- A table is compiled. -/
  | compile {bundle next : Bundle} {policy : PoolPolicy} {calls : List PoolCall}
      {rows : List TableRow} (made : Made rows)
      (done : ((Pool.compile rows).run.run (Pool.after policy calls)).1 = .ok next) :
      Step inserted bundle next
  /-- A pack is unpacked. -/
  | unpack {bundle next : Bundle} {bytes : List UInt8} (done : unpack bytes = .ok next) :
      Step inserted bundle next

/-- What comes about from a bundle without messages. -/
def Reachable (inserted : String → Message → Prop) : Bundle → Prop :=
  Relation.ReflTransGen (Step inserted) {}

/-- A bundle as its methods keep it. -/
structure Sound (bundle : Bundle) : Prop where
  /-- No code is listed twice. -/
  nodup : bundle.codes.Nodup
  /-- The messages are well formed. -/
  wellFormed : ∀ message ∈ bundle.messages.map Prod.snd, message.WellFormed

variable {bundle next : Bundle} {code : String} {message : Message} {rows : List TableRow}

theorem sound_empty : Sound {} := by
  constructor
  · exact List.nodup_nil
  · intro message hm
    cases hm

theorem own_empty : Own {} := by
  intro entry he
  cases he

theorem Sound.insert (h : bundle.Sound) (hm : message.WellFormed)
    (hi : bundle.insert code message = .ok next) : next.Sound := by
  obtain ⟨hnew, rfl⟩ := insert_eq_ok_iff.1 hi
  constructor
  · exact nodup_codes_concat_iff.2 ⟨h.nodup, hnew⟩
  · rw [List.map_append, List.forall_mem_append]
    exact ⟨h.wellFormed, List.forall_mem_singleton.2 hm⟩

theorem Own.insert (h : bundle.Own) (hc : message.code? = some code)
    (hi : bundle.insert code message = .ok next) : next.Own := by
  obtain ⟨-, rfl⟩ := insert_eq_ok_iff.1 hi
  exact own_concat_iff.2 ⟨h, hc⟩

theorem sound_bundleOf (h : AllParse rows) (hmade : Made rows) : (bundleOf rows).Sound := by
  constructor
  · rw [codes_bundleOf]
    exact nodup_codesOf rows
  · rw [bundleOf, List.map_map]
    intro message hm
    obtain ⟨code, hc, rfl⟩ := List.mem_map.1 hm
    exact .of_packable (Template.packable_of_parseLocalized (parseLocalized_variantsOf h hc))
      (allSound_messageOf h hmade hc)

/-- A bundle that is unpacked lists the messages of the pack under their own codes. -/
theorem sound_of_unpack {bytes : List UInt8} (h : unpack bytes = .ok bundle) :
    bundle.Sound ∧ bundle.Own := by
  unfold unpack at h
  cases hread : unpackMessages bytes with
  | error e =>
    rw [hread] at h
    cases h
  | ok messages =>
    simp only [hread] at h
    cases hmade : ofMessages messages with
    | error e =>
      rw [hmade] at h
      cases h
    | ok made =>
      rw [hmade] at h
      obtain rfl := Except.ok.inj h
      obtain ⟨hmessages, hown, hnodup⟩ := ofMessages_eq_ok_iff.1 hmade
      refine ⟨⟨hnodup, ?_⟩, hown⟩
      rw [hmessages]
      exact (Message.wellFormed_of_mem_unpackMessages hread).2

/-! ### One call and many -/

variable {inserted : String → Message → Prop}

theorem Step.sound (hstep : Step inserted bundle next) (h : bundle.Sound) : next.Sound := by
  cases hstep with
  | add hread hdone =>
    obtain ⟨code, -, hinsert⟩ := add_eq_ok_iff.1 hdone
    exact h.insert hread.wellFormed hinsert
  | insert hread _ hdone => exact h.insert hread.wellFormed hdone
  | compile hmade hdone =>
    rw [Pool.compile_after] at hdone
    obtain ⟨-, hparse, rfl⟩ := compile_eq_ok_iff.1 hdone
    exact sound_bundleOf hparse hmade
  | unpack hdone => exact (sound_of_unpack hdone).1

/-- Only inserting may list a message under a code that it does not carry. -/
theorem Step.own (hcodes : ∀ code message, inserted code message → message.code? = some code)
    (hstep : Step inserted bundle next) (h : bundle.Own) : next.Own := by
  cases hstep with
  | add _ hdone =>
    obtain ⟨code, hcode, hinsert⟩ := add_eq_ok_iff.1 hdone
    exact h.insert hcode hinsert
  | insert _ hallowed hdone => exact h.insert (hcodes _ _ hallowed) hdone
  | compile _ hdone =>
    rw [Pool.compile_after] at hdone
    obtain ⟨-, -, rfl⟩ := compile_eq_ok_iff.1 hdone
    exact own_bundleOf _
  | unpack hdone => exact (sound_of_unpack hdone).2

theorem Reachable.sound (h : Reachable inserted bundle) : bundle.Sound := by
  induction h with
  | refl => exact sound_empty
  | tail _ hstep ih => exact hstep.sound ih

theorem Reachable.own (hcodes : ∀ code message, inserted code message → message.code? = some code)
    (h : Reachable inserted bundle) : bundle.Own := by
  induction h with
  | refl => exact own_empty
  | tail _ hstep ih => exact hstep.own hcodes ih

/-! ### Packs -/

/-- The messages of a pack are those of the bundle, and they are added under their own codes. -/
theorem Sound.unpack_pack (h : bundle.Sound) (hsize : bundle.size < countLimit) :
    unpack (bundle.pack false) =
      (ofMessages (bundle.messages.map Prod.snd)).mapError BundleFailure.bundle := by
  have hread : unpackMessages (bundle.pack false) = .ok (bundle.messages.map Prod.snd) := by
    apply unpackMessages_packMessages_of_packable
    · rw [List.length_map]
      exact hsize
    · intro message hm
      exact (h.wellFormed message hm).sound
    · intro message hm
      exact (h.wellFormed message hm).packable
  rw [unpack, hread]
  cases hmade : ofMessages (bundle.messages.map Prod.snd) <;> simp only [hmade] <;> rfl

theorem Sound.unpack_pack_eq_iff (h : bundle.Sound) (hsize : bundle.size < countLimit) :
    unpack (bundle.pack false) = .ok bundle ↔ bundle.Own := by
  rw [h.unpack_pack hsize]
  constructor
  · intro hread
    exact (ofMessages_eq_ok_iff.1 (eq_ok_of_mapError_eq_ok hread)).2.1
  · intro hown
    rw [ofMessages_eq_ok_iff.2 ⟨rfl, hown, h.nodup⟩]
    rfl

/-- Whatever was done with a bundle, it is read back from its pack exactly if its messages carry the
    codes that they are listed under. They do if no message was inserted under a code that it does
    not carry. -/
theorem unpack_pack_of_reachable {inserted : String → Message → Prop} {bundle : Bundle}
    (h : Reachable inserted bundle) (hsize : bundle.size < countLimit) :
    (unpack (bundle.pack false) = .ok bundle ↔
        ∀ entry ∈ bundle.messages, entry.2.code? = some entry.1) ∧
      ((∀ code message, inserted code message → message.code? = some code) →
        unpack (bundle.pack false) = .ok bundle) := by
  have hread := h.sound.unpack_pack_eq_iff hsize
  constructor
  · exact hread
  · intro hcodes
    exact hread.2 (h.own hcodes)

/-- A table of two codes is compiled, and what was packed of it is unpacked. Then a message is added,
    and another one is inserted under its code. -/
theorem unpack_pack_of_reachable_calls :
    let own := fun (code : String) (message : Message) => message.code? = some code
    let say (text : String) : Message := .single (.literal { text })
    let title : Message := .localized [(⟨"en", none⟩, say "Title"), (⟨"de", none⟩, say "Titel")]
    let bundle : Bundle :=
      ⟨[("title", .coded "title" title), ("body", .coded "body" (.localized [(.root, say "Body")])),
        ("note", .coded "note" (say "first")), ("aside", .coded "aside" (say "second"))]⟩
    Reachable own bundle ∧ bundle.size < countLimit ∧
      unpack (bundle.pack false) = .ok bundle := by
  intro own say title bundle
  let rows : List TableRow :=
    [⟨"title", ⟨"en", none⟩, "Title"⟩, ⟨"body", .root, "Body"⟩, ⟨"title", ⟨"de", none⟩, "Titel"⟩]
  let compiled : Bundle :=
    ⟨[("title", .coded "title" title), ("body", .coded "body" (.localized [(.root, say "Body")]))]⟩
  have htext : ∀ text ∈ ["Title", "Titel", "Body", "first", "second"],
      Template.parse text = .ok (say text) := by
    simp only [List.forall_mem_cons, List.not_mem_nil, false_imp_iff, implies_true, and_true]
    refine ⟨?_, ?_, ?_, ?_, ?_⟩ <;> exact Template.parse_of_scanStep (by decide) (by cbv)
  have hparse : AllParse rows := by
    simp only [AllParse, rows, List.forall_mem_cons, List.not_mem_nil, false_imp_iff, implies_true,
      and_true]
    exact ⟨⟨_, htext "Title" (by decide)⟩, ⟨_, htext "Body" (by decide)⟩,
      ⟨_, htext "Titel" (by decide)⟩⟩
  have hmade : Made rows := by
    have hen : Locale.parse "en" = .ok ⟨"en", none⟩ := rfl
    have hroot : Locale.parse "" = .ok .root := rfl
    have hde : Locale.parse "de" = .ok ⟨"de", none⟩ := rfl
    refine ⟨by decide, ?_, ?_⟩
    · simp only [rows, List.forall_mem_cons, List.not_mem_nil, false_imp_iff, implies_true, and_true]
      exact ⟨⟨"en", hen⟩, ⟨"", hroot⟩, ⟨"de", hde⟩⟩
    · simp only [rows, List.forall_mem_cons, List.not_mem_nil, false_imp_iff, implies_true, and_true]
      decide
  have hbundle : bundleOf rows = compiled := by
    have hcodes : codesOf rows = ["title", "body"] := by decide
    have hsaid : ∀ text ∈ ["Title", "Titel", "Body", "first", "second"],
        Template.said text = say text := by
      intro text ht
      exact Template.said_of_parse (htext text ht)
    rw [bundleOf, hcodes]
    show (⟨[("title", .coded "title" (.localized [(⟨"en", none⟩, Template.said "Title"),
      (⟨"de", none⟩, Template.said "Titel")])),
      ("body", .coded "body" (.localized [(.root, Template.said "Body")]))]⟩ : Bundle) = compiled
    rw [hsaid "Title" (by decide), hsaid "Titel" (by decide), hsaid "Body" (by decide)]
  have hcompiled : Reachable own compiled := by
    have hdone : ((Pool.compile rows).run.run (Pool.after .none [])).1 = .ok compiled := by
      rw [Pool.compile_after, compile_of_nodup (by decide) hparse, hbundle]
    exact .tail .refl (.compile hmade hdone)
  have hunpacked : unpack (compiled.pack false) = .ok compiled :=
    (hcompiled.sound.unpack_pack_eq_iff (by decide)).2 (hcompiled.own fun _ _ hown => hown)
  have hread (code text : String) (hfits : FitsLength code ∧ FitsLength text)
      (ht : Template.parse text = .ok (say text)) : (Message.coded code (say text)).Read :=
    Message.read_of_parseCoded hfits (Template.parseCoded_eq_ok_iff.2 ⟨_, ht, rfl⟩)
  have h : Reachable own bundle :=
    ((hcompiled.tail (.unpack hunpacked)).tail
      (.add (hread "note" "first" (by decide) (htext "first" (by decide))) rfl)).tail
      (.insert (hread "aside" "second" (by decide) (htext "second" (by decide))) rfl rfl)
  have hsize : bundle.size < countLimit := by decide
  exact ⟨h, hsize, (unpack_pack_of_reachable h hsize).2 fun _ _ hown => hown⟩

/-- A message without a code may be inserted under one, and then the pack has no code for it. -/
theorem not_unpacked_without_code :
    let bundle : Bundle := ⟨[("B", .single (.literal { text := "second" }))]⟩
    Reachable (fun _ _ => True) bundle ∧ bundle.size < countLimit ∧
      unpack (bundle.pack false) = .error (.bundle .missingCode) := by
  intro bundle
  have hparse : Template.parse "second" = .ok (.single (.literal { text := "second" })) :=
    Template.parse_of_scanStep (by decide) (by cbv)
  have hread := Message.read_of_parse (by decide) hparse
  have h : Reachable (fun _ _ => True) bundle := .tail .refl (.insert hread trivial rfl)
  have hsize : bundle.size < countLimit := by decide
  refine ⟨h, hsize, ?_⟩
  rw [h.sound.unpack_pack hsize]
  rfl

end Bundle

end Phrasebook
