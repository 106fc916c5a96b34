import Phrasebook.Proofs.Rendering.Message
import Phrasebook.Proofs.Template.Nesting
import Phrasebook.Proofs.Template.RoundTrip
import Phrasebook.Proofs.Template.Unescaped

/-! # Rendered texts without spaces around them

    Formatters drop the spaces around what they make, and so does the joiner of several parts. One
    text is left as it is: that of a literal which is all that a message shows. So whatever is
    rendered has no spaces around it, unless it is such a text. The literals of a template have
    spaces around them only if they are written as escape sequences. -/

namespace Phrasebook

/-! ### Messages that show a literal -/

/-- All that the message shows is a literal: it is the only part, or the only part of what the
    message nests in the place of its only part. -/
inductive Message.Shows : Message → Literal → Prop where
  /-- The only part is the literal. -/
  | literal (text : Literal) : Shows (.single (.literal text)) text
  /-- What is nested shows the literal. -/
  | nested {message inner : Message} {text : Literal} (nests : message.Nests (.ok inner))
      (alone : ∀ parts, message ≠ .multiple parts) (shows' : inner.Shows text) : Shows message text

/-- The text has no spaces around it, or it is the text of a literal that is all that is shown. -/
def Message.ShownAs (message : Message) (fragment : Fragment) : Prop :=
  Unspaced fragment.text ∨ ∃ text, message.Shows text ∧ fragment.text = text.text

theorem Message.ShownAs.of_nests {message inner : Message} {fragment : Fragment}
    (h : inner.ShownAs fragment) (hi : message.Nests (.ok inner))
    (halone : ∀ parts, message ≠ .multiple parts) : message.ShownAs fragment := by
  rcases h with h | ⟨text, hshows, htext⟩
  · exact .inl h
  · exact .inr ⟨text, .nested hi halone hshows, htext⟩

/-! ### Formatters -/

section Formatting

variable {wanted : Fragment → Prop} {call : FormatCall} {nested : NestedRenderer call.settings}

theorem GivesOnly.selectOr {value : Value} {kinds : List KeyKind} {otherwise : Bool}
    {alternative : Except RenderError Fragment}
    (hn : ∀ v (hv : v ∈ call.settings.values), v ∈ call.settings.messageValues →
      GivesOnly wanted (nested v hv))
    (hk : .name ∉ kinds) (ha : GivesOnly wanted alternative) :
    GivesOnly wanted (call.selectOr nested value kinds otherwise alternative) := by
  unfold FormatCall.selectOr
  split
  · rename_i v hv
    exact hn v _ (Settings.mem_messageValues_of_select hk hv)
  · exact ha

/-- If nested messages give what is wanted, so does a formatter that is built in, as long as all
    texts without spaces around them are wanted. -/
theorem GivesOnly.formatValue (hwanted : ∀ fragment, Unspaced fragment.text → wanted fragment)
    (hb : call.context.registry.AllBuiltin)
    (hn : ∀ v (hv : v ∈ call.settings.values), v ∈ call.settings.messageValues →
      GivesOnly wanted (nested v hv)) (format : Option String) (value : Value) :
    GivesOnly wanted (formatValue call nested format value) := by
  induction format, value using formatValue_induction with
  | step format value spent inside =>
    -- whatever a formatter asks for, names are not among it
    have hselect {v : Value} {kinds : List KeyKind} {otherwise : Bool}
        {alternative : Except RenderError Fragment} (hk : .name ∉ kinds)
        (ha : GivesOnly wanted alternative) :
        GivesOnly wanted (call.selectOr nested v kinds otherwise alternative) :=
      GivesOnly.selectOr hn hk ha
    have hempty : GivesOnly wanted (.ok .empty : Except RenderError Fragment) :=
      givesOnly_ok (hwanted _ unspaced_empty)
    have htext (text : String) :
        GivesOnly wanted (.ok (.unspaced text) : Except RenderError Fragment) :=
      givesOnly_ok (hwanted _ (Fragment.unspaced_text_unspaced text))
    have hjoin (items : List Fragment) :
        GivesOnly wanted (.ok (call.listStyle.join items) : Except RenderError Fragment) :=
      givesOnly_ok (hwanted _ (call.listStyle.unspaced_text_join items))
    have hclip (limit : Nat) (fragment : Fragment) (h : wanted fragment) :
        wanted (clip limit fragment) := by
      rcases clip_cases limit fragment with hfits | hcut
      · rw [hfits]
        exact h
      · exact hwanted _ hcut
    obtain ⟨kind, hk⟩ := hb.resolve format value.typeName
    rw [formatValue.eq_def, hk]
    cases kind with
    | string =>
      apply hselect (by decide)
      split
      · exact hempty
      · exact hselect (by decide) (htext _)
    | number => exact hselect (by decide) (hselect (by decide) (htext _))
    | bool =>
      apply hselect (by decide)
      split
      · exact hempty
      · exact hselect (by decide) (htext _)
    | choice => exact hselect (by decide) hempty
    | size =>
      apply hselect (by decide)
      split
      · exact spent rfl _
      · exact htext _
    | clip =>
      apply hselect (by decide)
      split
      · exact hempty
      split
      · exact (spent rfl value).map (hclip _)
      · exact htext _
    | list =>
      apply hselect (by decide)
      split
      · exact GivesOnly.bind fun items => hjoin _
      · exact htext _
    | map =>
      apply hselect (by decide)
      split
      · exact GivesOnly.bind fun items => hjoin _
      · exact htext _
    | optional =>
      apply hselect (by decide)
      split
      · exact (inside _ (.present _)).1
      · exact hempty
    | supplier =>
      dsimp only
      split
      · exact (inside _ (.supplied _)).2
      · exact htext _

end Formatting

/-! ### Messages -/

variable {context : Context} {parameters : Parameters}

/-- A part of a message shows what the message does, if it is the only one. -/
theorem GivesOnly.renderPart {part : Part} (hb : context.registry.AllBuiltin)
    (ih : ∀ inner, (Message.single part).Nests (.ok inner) →
      GivesOnly inner.ShownAs (renderMessage context parameters inner)) :
    GivesOnly (Message.single part).ShownAs (renderPart context parameters part) := by
  cases part with
  | literal text => exact givesOnly_ok (.inr ⟨text, .literal text, rfl⟩)
  | placeholder place =>
    have halone : ∀ parts, Message.single (.placeholder place) ≠ .multiple parts := by
      intro parts h
      cases h
    have hnested : ∀ v (_ : v ∈ place.settings.values), v ∈ place.settings.messageValues →
        GivesOnly (Message.single (.placeholder place)).ShownAs
          (renderNested context parameters v) := by
      intro v _ hv
      unfold renderNested
      cases hr : v.toMessage with
      | error e => exact givesOnly_error _
      | ok inner =>
        have hi : (Message.single (.placeholder place)).Nests (.ok inner) :=
          .value (List.mem_singleton_self _) hv hr
        intro fragment hf
        exact (ih inner hi fragment hf).of_nests hi halone
    have hvalue (value : Value) := @GivesOnly.formatValue _ ⟨context, parameters, place.settings⟩
      (fun v _ => renderNested context parameters v) (fun _ hu => .inl hu) hb hnested place.format
      value
    have hrendered := GivesOnly.bind (r := context.valueOf parameters place.name) hvalue
    unfold Phrasebook.renderPart
    dsimp only
    rw [renderPlaceholder_eq]
    refine GivesOnly.mapError ?_ _
    -- the flags of the place are added, and the text stays
    exact hrendered.map fun _ hf => hf

/-- What is rendered has no spaces around it, or it is a literal that is all that is shown. -/
theorem GivesOnly.renderMessage (hb : context.registry.AllBuiltin) (message : Message) :
    GivesOnly message.ShownAs (renderMessage context parameters message) := by
  induction message using Message.nests_induction with
  | step message ih =>
    cases message using Message.cases_rendering with
    | localized variants =>
      cases hs : selectVariant variants (context.localeFor parameters) with
      | none =>
        rw [renderMessage_of_select_none hs]
        exact givesOnly_ok (.inl unspaced_empty)
      | some variant =>
        obtain ⟨locale, hv⟩ := mem_of_selectVariant hs
        have hi : (Message.localized variants).Nests (.ok variant) := .variant hv
        rw [renderMessage_of_select hs]
        apply GivesOnly.mapError
        intro fragment hf
        exact (ih variant hi fragment hf).of_nests hi (by simp)
    | coded code inner =>
      have hi : (Message.coded code inner).Nests (.ok inner) := .coded code inner
      rw [renderMessage_coded]
      apply GivesOnly.mapError
      intro fragment hf
      exact (ih inner hi fragment hf).of_nests hi (by simp)
    | parts message hl hc =>
      rw [renderMessage_parts hl hc]
      cases message with
      | localized variants => exact absurd rfl (hl variants)
      | coded code inner => exact absurd rfl (hc code inner)
      | empty => exact givesOnly_ok (.inl unspaced_empty)
      | multiple parts =>
        intro fragment hf
        obtain ⟨fragments, -, rfl⟩ := exists_of_map_eq_ok hf
        exact .inl (Joiner.unspaced_text_toSpaced _)
      | single part =>
        have hpart := GivesOnly.renderPart hb ih
        intro fragment hf
        obtain ⟨fragments, hfragments, rfl⟩ := exists_of_map_eq_ok hf
        rw [show (Message.single part).parts = [part] from rfl, List.mapM_cons] at hfragments
        obtain ⟨only, honly, hrest⟩ := exists_of_bind_eq_ok hfragments
        obtain rfl : [only] = fragments := Except.ok.inj hrest
        exact hpart only honly

/-! ### Templates -/

theorem unspaced_of_forall {text : String} (h : ∀ c ∈ text.toList, isWhitespace c = false) :
    Unspaced text := by
  have htrimmed : Trimmed isWhitespace text.toList :=
    ⟨fun c hc => h c (List.mem_of_mem_head? hc), fun c hc => h c (List.mem_of_getLast? hc)⟩
  exact htrimmed.mono fun _ => isWhitespace_of_isSpaceChar

theorem unspaced_boolText (b : Bool) : Unspaced (boolText b) := by
  have hall : (boolText b).toList.all (fun c => !isWhitespace c) = true := by
    cases b with
    | false => rfl
    | true => rfl
  apply unspaced_of_forall
  intro c hc
  simpa using List.all_eq_true.1 hall c hc

theorem unspaced_intText (n : Int) : Unspaced (intText n) := by
  apply unspaced_of_forall
  intro c hc
  rw [intText, String.toList_ofList] at hc
  exact isWhitespace_of_mem_intChars hc

/-- The message of a text shows nothing else. -/
theorem Message.Shows.text_ofText {text : String} {shown : Literal}
    (h : (Message.ofText text).Shows shown) : shown.text = text := by
  generalize hm : Message.ofText text = message at h
  cases h with
  | literal =>
    have hparts : Part.literal shown ∈ Part.foldEmpty [.literal { text }] := by
      rw [← Message.parts_ofParts]
      show Part.literal shown ∈ (Message.ofText text).parts
      rw [hm]
      exact List.mem_singleton_self _
    obtain ⟨original, ho, htext⟩ := (Part.respaced_of_mem_foldEmpty hparts).exists_literal
    obtain rfl := Part.literal.inj (List.mem_singleton.1 ho)
    exact htext
  | nested nests =>
    -- nothing ranks lower than the message of a text
    have hlt := nests.rank_lt
    rw [← hm, Message.rank_ofText] at hlt
    exact absurd hlt (Nat.not_lt_zero _)

/-- Without escape sequences in a template, no literal that is shown has spaces around it. -/
theorem Message.Shows.unspaced {message : Message} {shown : Literal} (h : message.Shows shown)
    {source : String} (hs : '\\' ∉ source.toList) (hp : Template.parse source = .ok message) :
    Unspaced shown.text := by
  induction h generalizing source with
  | literal shown =>
    exact (Template.unescaped_of_parse hs hp).literals shown (List.mem_singleton_self _)
  | @nested message inner shown nests alone shows' ih =>
    have hprintable := Template.printable_of_parse hp
    cases nests with
    | variant => exact absurd hprintable.ofParts id
    | coded => exact absurd hprintable.ofParts id
    | @value _ place value _ hplace hvalue hread =>
      have hmem := Settings.mem_values_of_mem_messageValues hvalue
      cases value with
      | message other =>
        exact absurd ((hprintable.places place hplace).settings.values _ hmem) id
      | string quoted =>
        -- the source of a string is part of the source of the template
        exact ih ((Template.unescaped_of_parse hs hp).values place hplace _ hmem quoted rfl) hread
      | bool b =>
        obtain rfl := Except.ok.inj hread
        rw [shows'.text_ofText]
        exact unspaced_boolText b
      | number n =>
        obtain rfl := Except.ok.inj hread
        rw [shows'.text_ofText]
        exact unspaced_intText n.toInt

theorem Message.Shows.of_coded {code : String} {inner : Message} {shown : Literal}
    (h : (Message.coded code inner).Shows shown) : inner.Shows shown := by
  cases h with
  | nested nests _ shows' =>
    cases nests with
    | coded => exact shows'
    | value hp => cases hp

theorem Message.Shows.exists_variant {variants : List (Locale × Message)} {shown : Literal}
    (h : (Template.ofVariants variants).Shows shown) :
    ∃ variant ∈ variants, variant.2.Shows shown := by
  unfold Template.ofVariants at h
  split at h
  · -- an empty message nests nothing
    cases h with
    | nested nests =>
      cases nests with
      | value hp => cases hp
  · cases h with
    | nested nests _ shows' =>
      cases nests with
      | variant hv => exact ⟨_, hv, shows'⟩
      | value hp => cases hp

/-- The message is read from the templates: from one of them, with or without a code, or from one
    for each locale. -/
inductive Message.ReadFrom : List String → Message → Prop where
  /-- From a template. -/
  | parse {source : String} {message : Message} (read : Template.parse source = .ok message) :
      ReadFrom [source] message
  /-- From a template, with a code. -/
  | parseCoded {code source : String} {message : Message}
      (read : Template.parseCoded code source = .ok message) : ReadFrom [source] message
  /-- From localized templates. -/
  | parseLocalized {code : Option String} {templates : List (Locale × String)} {message : Message}
      (read : Template.parseLocalized code templates = .ok message) :
      ReadFrom (templates.map Prod.snd) message

/-- Without escape sequences in the templates, no literal that is shown has spaces around it. -/
theorem Message.ReadFrom.unspaced {sources : List String} {message : Message} {shown : Literal}
    (h : message.ReadFrom sources) (hs : ∀ source ∈ sources, '\\' ∉ source.toList)
    (hshows : message.Shows shown) : Unspaced shown.text := by
  cases h with
  | parse read => exact hshows.unspaced (hs _ (List.mem_singleton_self _)) read
  | @parseCoded code source message read =>
    obtain ⟨inner, hp, rfl⟩ := Template.parseCoded_eq_ok_iff.1 read
    exact hshows.of_coded.unspaced (hs _ (List.mem_singleton_self _)) hp
  | @parseLocalized code templates message read =>
    obtain ⟨variants, hvariants, rfl⟩ := exists_of_map_eq_ok read
    obtain ⟨hparse, rfl⟩ := Template.parseVariants_eq_ok_iff.1 hvariants
    -- a code in front of the variants shows what they do
    have hinner : (Template.ofVariants (templates.map fun template =>
        (template.1, Template.said template.2))).Shows shown := by
      cases code with
      | none => exact hshows
      | some code => exact hshows.of_coded
    obtain ⟨variant, hv, hvariant⟩ := hinner.exists_variant
    obtain ⟨template, ht, rfl⟩ := List.mem_map.1 hv
    exact hvariant.unspaced (hs _ (List.mem_map_of_mem ht)) (hparse template ht)

/-- What is rendered of templates has no spaces around it, or it is the text of a literal which is
    all that is shown. Without escape sequences in the templates there are no spaces around it, and
    the text of a message that is a literal is left as it is. -/
theorem Message.ReadFrom.unspaced_or_shows {sources : List String} {message : Message}
    (h : message.ReadFrom sources) (hb : context.registry.AllBuiltin) (parameters : Parameters) :
    (∀ text, render context message parameters = .ok text →
        Unspaced text ∨ ∃ shown, message.Shows shown ∧ text = shown.text) ∧
      ((∀ source ∈ sources, '\\' ∉ source.toList) →
        ∀ text, render context message parameters = .ok text → Unspaced text) ∧
      ∀ shown, message = .single (.literal shown) →
        render context message parameters = .ok shown.text := by
  have hrendered : ∀ text, render context message parameters = .ok text →
      Unspaced text ∨ ∃ shown, message.Shows shown ∧ text = shown.text := by
    intro text htext
    obtain ⟨fragment, hf, rfl⟩ := exists_of_map_eq_ok htext
    exact GivesOnly.renderMessage hb message fragment hf
  refine ⟨hrendered, ?_, ?_⟩
  · intro hs text htext
    rcases hrendered text htext with hunspaced | ⟨shown, hshows, rfl⟩
    · exact hunspaced
    · exact h.unspaced hs hshows
  · rintro shown rfl
    rw [render, renderMessage_parts (by simp) (by simp)]
    rfl

/-- A greeting with spaces around it and within. -/
def spacedGreeting : Message :=
  .multiple [.literal ⟨"Dear", true, true⟩, .placeholder ⟨"x", none, {}, false, true⟩]

theorem Template.parse_spacedGreeting :
    Template.parse " Dear %\x7bx\x7d " = .ok spacedGreeting := by
  have hplace {place : Placeholder} (hp : .placeholder place ∈ spacedGreeting.parts) :
      place = ⟨"x", none, {}, false, true⟩ := by
    simpa [spacedGreeting, Message.parts] using hp
  have hprintable : spacedGreeting.Printable := by
    refine ⟨Nat.le_refl 2, ⟨?_, ?_⟩, ?_⟩
    · simp [spacedGreeting, Message.parts, Part.Follows]
    · simp [spacedGreeting, Message.parts, Part.isEmptyText]
    · intro place hp
      obtain rfl := hplace hp
      refine ⟨isWordText_cons rfl (by decide) (by decide), by simp, ?_⟩
      constructor <;> simp [Settings.Distinct, Settings.keys, Settings.values]
  have hfaithful : spacedGreeting.FaithfulHere := by
    intro place hp quoted hq
    obtain rfl := hplace hp
    cases hq
  have hsettled : spacedGreeting.Settled := by
    constructor
    · have htight : Tight "Dear".toList := tight_iff_tightFrom.2 rfl
      simpa [spacedGreeting, Message.parts] using htight
    · intro place hp quoted hq
      obtain rfl := hplace hp
      cases hq
  -- the template is the source of the greeting
  exact (parse_source_eq_iff hprintable hfaithful).2 hsettled

/-- The spaces of the template and those of the value are dropped, except for one in between. -/
theorem unspaced_or_shows_greeting :
    let parameters := Parameters.insert {} "x" (.string "  a  ")
    spacedGreeting.ReadFrom [" Dear %\x7bx\x7d "] ∧ Context.standard.registry.AllBuiltin ∧
      (∀ source ∈ [" Dear %\x7bx\x7d "], '\\' ∉ source.toList) ∧
      render .standard spacedGreeting parameters = .ok "Dear a" ∧ Unspaced "Dear a" := by
  intro parameters
  have hread : spacedGreeting.ReadFrom [" Dear %\x7bx\x7d "] := .parse Template.parse_spacedGreeting
  have hstandard := Registry.allBuiltin_standard
  have hs : ∀ source ∈ [" Dear %\x7bx\x7d "], '\\' ∉ source.toList := by decide
  have hpart : renderPart .standard parameters (.placeholder ⟨"x", none, {}, false, true⟩) =
      .ok ⟨"a", false, true⟩ :=
    (renderPlaceholder_eq_ok_iff _ rfl).2
      ⟨.unspaced "  a  ", formatValue_string rfl rfl rfl _, rfl⟩
  have hrender : render .standard spacedGreeting parameters = .ok "Dear a" := by
    rw [render, spacedGreeting, renderMessage_parts (by simp) (by simp)]
    simp only [Message.parts, List.mapM_cons, hpart]
    rfl
  exact ⟨hread, hstandard, hs, hrender,
    (Message.ReadFrom.unspaced_or_shows hread hstandard parameters).2.1 hs "Dear a" hrender⟩

/-- An escaped space is rendered as it is. -/
theorem not_unspaced_escapedSpace :
    ∃ message text, Template.parse "\\ " = .ok message ∧ Context.standard.registry.AllBuiltin ∧
      render .standard message {} = .ok text ∧ ¬ Unspaced text := by
  refine ⟨_, " ", Template.parse_escapedSpace, Registry.allBuiltin_standard, ?_, ?_⟩
  · rw [render, renderMessage_parts (by simp) (by simp)]
    rfl
  · intro hunspaced
    cases hunspaced.first ' ' rfl

end Phrasebook
