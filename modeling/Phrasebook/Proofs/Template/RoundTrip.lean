import Phrasebook.Proofs.Template.Reprinting

/-! # Printing and parsing

    A printable message is parsed from its source, and the result is the message itself exactly if
    the message is settled: its texts are tight, and no apostrophe is escaped when a string is
    quoted.

    * `Template.parse_source_of_canonical`: canonical messages, which are settled, come back;
    * `Template.parse_source_of_parse`: the message of a template comes back if it is settled, and
      else another message does. Escaped whitespace makes texts that are not tight, so templates
      are not reproduced in general. -/

namespace Phrasebook

/-! ### What quoting keeps -/

/-- Quoting keeps the source of the string: if both quotes occur in it, all apostrophes are
    escaped. -/
def QuotedText.Settled (quoted : QuotedText) : Prop :=
  '\'' ∈ quoted.source.toList → '"' ∈ quoted.source.toList →
    Enclosable .single quoted.source.toList

theorem QuotedText.ofSource_requote_eq_iff {quoted : QuotedText}
    (h : WellEscaped quoted.source.toList) (hf : quoted.Faithful) :
    ofSource (requote quoted.source) = quoted ↔ quoted.Settled := by
  rw [Settled, ← requote_eq_iff h]
  constructor
  · exact fun he => congrArg QuotedText.source he
  · intro he
    obtain ⟨source, text⟩ := quoted
    rw [ofSource, he, show text = unescape source from hf]

theorem SettingValue.reread_eq_iff {value : SettingValue} (h : value.Printable)
    (hf : ∀ quoted ∈ value.quoted?, quoted.Faithful) :
    value.reread = value ↔ ∀ quoted ∈ value.quoted?, quoted.Settled := by
  cases value with
  | bool b => simp [reread, quoted?]
  | number n => simp [reread, quoted?]
  | string quoted =>
    have hiff := QuotedText.ofSource_requote_eq_iff h (hf quoted rfl)
    simpa [reread, quoted?] using hiff
  | message inner => exact absurd h id

theorem Settings.reread_eq_iff {settings : Settings SettingValue} :
    settings.reread = settings ↔ ∀ value ∈ settings.values, value.reread = value := by
  obtain ⟨entries, otherwise⟩ := settings
  have hentries : (entries.map fun entry => (entry.1, entry.2.reread)) = entries ↔
      ∀ entry ∈ entries, entry.2.reread = entry.2 := by
    conv => lhs; rhs; rw [← List.map_id entries]
    rw [List.map_inj_left]
    exact forall₂_congr fun entry _ => by simp [Prod.ext_iff]
  rw [Settings.forall_mem_values, reread, Settings.mk.injEq, hentries]
  cases otherwise <;> simp

theorem Placeholder.reread_eq_iff {place : Placeholder} (h : place.Printable)
    (hf : ∀ quoted ∈ place.quoted, quoted.Faithful) :
    place.reread = place ↔ ∀ quoted ∈ place.quoted, quoted.Settled := by
  have hsettings : place.reread = place ↔ place.settings.reread = place.settings := by
    obtain ⟨name, format, settings, before, after⟩ := place
    simp [reread]
  rw [hsettings, Settings.reread_eq_iff]
  simp only [quoted, List.mem_filterMap, forall_exists_index, and_imp] at hf ⊢
  constructor
  · intro hall quoted value hv hq
    have hvalue := (SettingValue.reread_eq_iff (h.settings.values value hv)
      fun quoted' hq' => hf quoted' value hv hq').1 (hall value hv)
    exact hvalue quoted hq
  · intro hall value hv
    exact (SettingValue.reread_eq_iff (h.settings.values value hv)
      fun quoted' hq' => hf quoted' value hv hq').2 fun quoted hq => hall quoted value hv hq

/-! ### Settled messages -/

namespace Message

/-- Nothing changes in the message when it is printed. -/
structure Settled (message : Message) : Prop where
  /-- Texts are tight. -/
  tight : ∀ text, .literal text ∈ message.parts → Tight text.text.toList
  /-- Quoting keeps the sources of strings. -/
  quoted : ∀ place, .placeholder place ∈ message.parts → ∀ quoted ∈ place.quoted, quoted.Settled

/-- Strings in the message are faithful. -/
def FaithfulHere (message : Message) : Prop :=
  ∀ place, .placeholder place ∈ message.parts → ∀ quoted ∈ place.quoted, quoted.Faithful

/-- A message that can be printed, and in which printing keeps the texts and strings. -/
structure Canonical (message : Message) : Prop where
  /-- The message is printable. -/
  printable : message.Printable
  /-- Printing keeps texts and strings. -/
  settled : message.Settled
  /-- Strings are what their sources stand for. -/
  faithful : message.FaithfulHere

/-- The parts of a settled message come back as they were. -/
theorem Settled.reread_eq {message : Message} (h : message.Settled) (hp : message.Printable)
    (hf : message.FaithfulHere) : message.parts.map Part.reread = message.parts := by
  conv => rhs; rw [← List.map_id message.parts]
  rw [List.map_inj_left]
  intro part hpart
  cases part with
  | literal text => exact congrArg Part.literal (Literal.reread_of_tight (h.tight text hpart))
  | placeholder place =>
    have hplace := (Placeholder.reread_eq_iff (hp.places place hpart) (hf place hpart)).2
      (h.quoted place hpart)
    exact congrArg Part.placeholder hplace

end Message

/-- What folding leaves of a part that was printed and scanned, without spaces. -/
def Part.kept (part : Part) : List Part :=
  (part.reread.spread.filter fun part => !part.isEmptyText).map Part.bare

theorem Part.kept_literal (text : Literal) :
    (literal text).kept =
      if text.reread.text.isEmpty then [] else [literal { text := text.reread.text }] := by
  simp only [kept, reread, spread, List.filter_cons, List.filter_nil, isEmptyText]
  split <;> rename_i h <;> simp at h <;> simp [h, bare]

theorem Part.kept_placeholder (place : Placeholder) :
    (placeholder place).kept = [(placeholder place.reread).bare] := by
  obtain ⟨name, format, settings, before, after⟩ := place
  cases before <;> cases after <;> rfl

theorem Part.length_kept_le (part : Part) : part.kept.length ≤ 1 := by
  cases part with
  | literal text =>
    rw [kept_literal]
    split <;> simp
  | placeholder place => rw [kept_placeholder]; rfl

/-- If every element yields one at most, and as many come out as go in, then each yields its own. -/
theorem eq_singleton_of_flatMap_eq_map {α β : Type} {f : α → List β} {g : α → β} {xs : List α}
    (hf : ∀ x, (f x).length ≤ 1) (h : xs.flatMap f = xs.map g) : ∀ x ∈ xs, f x = [g x] := by
  have hle (ys : List α) : (ys.flatMap f).length ≤ ys.length := by
    induction ys with
    | nil => simp
    | cons y ys ih =>
      have := hf y
      simp only [List.flatMap_cons, List.length_append, List.length_cons]
      omega
  induction xs with
  | nil => simp
  | cons x xs ih =>
    rw [List.flatMap_cons, List.map_cons] at h
    rcases hx : f x with _ | ⟨y, _ | ⟨z, more⟩⟩
    · -- the other elements would have to yield one more than they are
      have hlen := congrArg List.length h
      have := hle xs
      simp only [hx, List.nil_append, List.length_cons, List.length_map] at hlen
      omega
    · rw [hx] at h
      obtain ⟨rfl, hrest⟩ := List.cons.inj h
      exact List.forall_mem_cons.2 ⟨hx, ih hrest⟩
    · have := hf x
      simp [hx] at this

namespace Template

/-- A printable message comes back from its source if and only if it is settled. -/
theorem parse_source_eq_iff {message : Message} (h : message.Printable)
    (hf : message.FaithfulHere) : parse message.source = .ok message ↔ message.Settled := by
  rw [parse_printed h]
  constructor
  · intro he
    have hparts : Part.foldEmpty ((message.parts.map Part.reread).flatMap Part.spread) =
        message.parts := by
      rw [← Message.parts_ofParts, Except.ok.inj he]
    -- up to spaces, every part is what is left of it when it was printed and scanned
    have hkept : ∀ part ∈ message.parts, part.kept = [part.bare] := by
      refine eq_singleton_of_flatMap_eq_map Part.length_kept_le ?_
      have hbare := Part.map_bare_foldEmpty ((message.parts.map Part.reread).flatMap Part.spread)
      rw [hparts] at hbare
      rw [hbare, List.flatMap_map, List.filter_flatMap, List.map_flatMap]
      rfl
    refine ⟨fun text hmem => ?_, fun place hmem => ?_⟩
    · have hliteral := hkept _ hmem
      rw [Part.kept_literal] at hliteral
      split at hliteral
      · cases hliteral
      · rename_i hne
        have htext : text.reread.text = text.text := by simpa [Part.bare] using hliteral
        rw [← htext]
        exact Literal.tight_reread (by simpa using hne)
    · have hplace := hkept _ hmem
      rw [Part.kept_placeholder] at hplace
      refine (Placeholder.reread_eq_iff (h.places place hmem) (hf place hmem)).1 ?_
      obtain ⟨name, format, settings, before, after⟩ := place
      simpa [Part.bare, Placeholder.reread] using hplace
  · intro hsettled
    rw [hsettled.reread_eq h hf]
    exact congrArg Except.ok (h.ofParts.ofParts_eq (Part.foldEmpty_spread h.arranged))

/-! ### Canonical messages -/

/-- Canonical messages come back from what they are printed as. -/
theorem parse_source_of_canonical {message : Message} (h : message.Canonical) :
    parse message.source = .ok message :=
  (parse_source_eq_iff h.printable h.faithful).2 h.settled

/-- A choice with a keyword for a name, and an apostrophe in a string. -/
def keywordChoice : Placeholder :=
  { name := "null", format := some "choice",
    settings := ⟨[(.number .lt 5, .string ⟨"it's", "it's"⟩), (.null .ne, .bool true)], none⟩,
    spaceBefore := false, spaceAfter := false }

/-- The choice stands between two texts. -/
def keywordQuestion : Message :=
  .multiple [.literal ⟨"Is", false, true⟩, .placeholder keywordChoice, .literal ⟨"?", true, false⟩]

theorem source_keywordQuestion :
    keywordQuestion.source = "Is %\x7bnull,choice,<5:\"it's\",<>null:true\x7d ?" := by
  have hfive : decimalDigits 5 = ['5'] := by simp [decimalDigits, digitChar]
  have hkey : (SettingKey.number .lt 5).source = "<5" := by
    show "<" ++ String.ofList (decimalDigits 5) = "<5"
    rw [hfive]
    rfl
  simp only [keywordQuestion, keywordChoice, Message.source, Message.partsSource,
    Message.partSource, Message.placeSource, Message.settingsSource, Message.entriesSource,
    Message.otherwiseSource, Message.valueSource, hkey]
  decide

theorem printable_keywordChoice : keywordChoice.Printable := by
  have hname : IsWordText "null" := isWordText_cons rfl (by decide) (by decide)
  have hformat : IsNameText "choice" :=
    ⟨isWordText_cons rfl (by decide) (by decide), by decide⟩
  have hescaped : WellEscaped "it's".toList := Escaped.of_not_mem (by simp) (by decide)
  refine ⟨hname, by simpa [keywordChoice] using hformat, ?_, ?_, ?_⟩
  · simp [Settings.Distinct, Settings.keys, keywordChoice]
  · simp [Settings.keys, keywordChoice, SettingKey.Printable]
  · simpa [Settings.values, keywordChoice, SettingValue.Printable] using hescaped

theorem canonical_keywordQuestion : keywordQuestion.Canonical := by
  -- there is one string, and it needs no escapes
  have hstring {place : Placeholder} (hp : .placeholder place ∈ keywordQuestion.parts) :
      ∀ quoted ∈ place.quoted, quoted = ⟨"it's", "it's"⟩ := by
    obtain rfl : place = keywordChoice := by simpa [keywordQuestion, Message.parts] using hp
    intro quoted hq
    exact List.mem_singleton.1 hq
  constructor
  · refine ⟨by simp [keywordQuestion, Message.OfParts], ⟨?_, ?_⟩, ?_⟩
    · simp [keywordQuestion, Message.parts, Part.Follows, keywordChoice]
    · simp [keywordQuestion, Message.parts, Part.isEmptyText]
    · simpa [keywordQuestion, Message.parts] using printable_keywordChoice
  · constructor
    · have htight : Tight "Is".toList ∧ Tight "?".toList :=
        ⟨tight_iff_tightFrom.2 rfl, tight_iff_tightFrom.2 rfl⟩
      simpa [keywordQuestion, Message.parts] using htight
    · intro place hp quoted hq
      rw [hstring hp quoted hq]
      exact fun _ hdouble => absurd hdouble (by decide)
  · intro place hp quoted hq
    rw [hstring hp quoted hq]
    exact (unescape_of_not_mem (by decide)).symm

theorem parse_source_of_canonical_choice : ∃ message : Message, message.Canonical ∧
    parse "Is %\x7bnull,choice,<5:\"it's\",<>null:true\x7d ?" = .ok message :=
  ⟨keywordQuestion, canonical_keywordQuestion,
    source_keywordQuestion ▸ parse_source_of_canonical canonical_keywordQuestion⟩

/-- A placeholder without spaces around it is read from its source, if that keeps the strings. -/
theorem parse_placeSource (place : Placeholder) (h : place.Printable)
    (hspaces : place.spaceBefore = false ∧ place.spaceAfter = false)
    (hquoted : ∀ quoted ∈ place.quoted, quoted.Faithful ∧ quoted.Settled) :
    parse (Message.placeSource place) = .ok (.single (.placeholder place)) := by
  have hmem {other : Placeholder}
      (hp : .placeholder other ∈ (Message.single (.placeholder place)).parts) : other = place :=
    Part.placeholder.inj (List.mem_singleton.1 hp)
  have hprintable : (Message.single (.placeholder place)).Printable := by
    refine ⟨trivial, ⟨List.isChain_singleton _, List.forall_mem_singleton.2 rfl⟩, ?_⟩
    intro other hp
    obtain rfl := hmem hp
    exact h
  have hfaithful : (Message.single (.placeholder place)).FaithfulHere := by
    intro other hp quoted hq
    obtain rfl := hmem hp
    exact (hquoted quoted hq).1
  have hsettled : (Message.single (.placeholder place)).Settled := by
    constructor
    · intro text ht
      cases List.mem_singleton.1 ht
    · intro other hp quoted hq
      obtain rfl := hmem hp
      exact (hquoted quoted hq).2
  have hsource : (Message.single (.placeholder place)).source = Message.placeSource place := by
    show spaceIf place.spaceBefore ++ Message.placeSource place ++ spaceIf place.spaceAfter = _
    rw [hspaces.1, hspaces.2, spaceIf, if_neg Bool.false_ne_true, String.append_empty,
      String.empty_append]
  rw [← hsource]
  exact (parse_source_eq_iff hprintable hfaithful).2 hsettled

/-! ### Messages of templates -/

/-- The message of a template is printed as a template again. What that one says is the same message
    if texts are tight and no apostrophe is escaped when a string is quoted, and else it is not. -/
theorem parse_source_of_parse {source : String} {message : Message}
    (h : parse source = .ok message) :
    ∃ again, parse message.source = .ok again ∧ (again.same message = true ↔ message.Settled) := by
  have hprintable := printable_of_parse h
  have hagain := parse_printed hprintable
  have hfaithful := allQuoted_of_parse h
  refine ⟨_, hagain, ?_⟩
  rw [Message.same_iff_eq (allQuoted_of_parse hagain) hfaithful,
    ← parse_source_eq_iff hprintable hfaithful.here, hagain, Except.ok.injEq]

/-- An escaped space is a text. -/
theorem parse_escapedSpace : parse "\\ " = .ok (.single (.literal { text := " " })) := by
  have hrun : scanText false ['\\', ' '] = .ok ⟨[' '], false, []⟩ := by
    have hread : readEscape [' '] = .ok (' ', []) := readEscape_of_ne (by decide) []
    rw [scanText, if_neg (by decide), if_neg (by decide), if_pos rfl]
    split
    · rename_i failure hf
      cases hread.symm.trans hf
    · rename_i d rest hr
      obtain ⟨rfl, rfl⟩ := Prod.mk.inj (Except.ok.inj (hread.symm.trans hr))
      rw [scanText]
      rfl
  have hstep : scanStep 2 .text ['\\', ' '] =
      .ok (some ⟨[⟨.text false false, 0, 2, " "⟩], .text, []⟩) := by
    show (scanTextStep 2 ['\\', ' ']).map some = _
    unfold scanTextStep
    rw [List.dropWhile_cons_of_neg (by decide), hrun]
    rfl
  exact parse_of_scanStep (by decide) hstep

/-- The text that is an escaped space is not tight, so its template is not reproduced. -/
theorem parse_source_of_parse_escapedSpace :
    parse "\\ " = .ok (.single (.literal { text := " " })) ∧
      ∃ again, parse " " = .ok again ∧
        (again.same (.single (.literal { text := " " })) = true ↔
          Message.Settled (.single (.literal { text := " " }))) :=
  ⟨parse_escapedSpace, parse_source_of_parse parse_escapedSpace⟩

/-- A space that was escaped is printed as it is, and then it is no text. -/
theorem not_reproduced_escapedSpace :
    parse "\\ " = .ok (.single (.literal { text := " " })) ∧
      parse (Message.source (.single (.literal { text := " " }))) = .ok .empty ∧
        Message.same .empty (.single (.literal { text := " " })) = false := by
  have hagain := parse_printed (printable_of_parse parse_escapedSpace)
  refine ⟨parse_escapedSpace, hagain.trans ?_, by simp [Message.same]⟩
  rfl

end Template

end Phrasebook
