import Phrasebook.Command.Run
import Phrasebook.Proofs.Bundle.Compiled
import Phrasebook.Proofs.Formatter.Resolution
import Phrasebook.Proofs.Number.Words
import Phrasebook.Proofs.Rendering.Variants
import Phrasebook.Proofs.Template.Reprinting
import Phrasebook.Proofs.Text.Trimming

/-! # Words on the command line

    A parameter is given as a word, and a message shows it as it was given, up to the spaces around
    it. On its way the word is read as a value, the value finds its formatter by its type, and the
    formatter writes it again. Of the words without digits only the truth values and the words for
    floating point numbers are read as something else than text. Truth values are written as they
    are read (`Assignment.readValue_of_not_spells`); infinities and what is no number are not. -/

namespace Phrasebook

/-! ### Names of parameters -/

/-- No number is whitespace: the tables of both have no code in common. -/
theorem isWhitespace_of_isNumeric {c : Char} (h : Unicode.isNumeric c = true) :
    isWhitespace c = false := by
  have hdisjoint : ∀ w ∈ wideWhitespace, ∀ r ∈ Unicode.numericRanges,
      r.2 < w.1 ∨ w.2 < r.1 := by decide +kernel
  by_cases hascii : c.toNat < 0x80
  · rw [Unicode.isNumeric_of_ascii hascii] at h
    exact isWhitespace_of_isDigit h
  · rw [Unicode.isNumeric, if_neg hascii] at h
    rw [isWhitespace, if_neg hascii]
    by_contra hw
    obtain ⟨w, hmem, hlo, hhi⟩ := Unicode.inRanges_eq_true_iff.1 (Bool.not_eq_false _ ▸ hw)
    obtain ⟨r, hmem', hlo', hhi'⟩ := Unicode.inRanges_eq_true_iff.1 h
    have := hdisjoint w hmem r hmem'
    omega

theorem isWhitespace_of_isNamePart {c : Char} (h : isNamePart c = true) :
    isWhitespace c = false := by
  simp only [isNamePart, Bool.or_eq_true, beq_iff_eq] at h
  rcases h with ((halpha | hnumeric) | rfl) | rfl
  · exact isWhitespace_of_isNameStart halpha
  · exact isWhitespace_of_isNumeric hnumeric
  · rfl
  · rfl

theorem IsWordText.isNamePart_of_mem {word : String} (h : IsWordText word) {c : Char}
    (hc : c ∈ word.toList) : isNamePart c = true := by
  obtain ⟨d, ds, hword, hstart, hparts⟩ := h
  rw [hword] at hc
  rcases List.mem_cons.1 hc with rfl | hc
  · exact isNamePart_of_isNameStart hstart
  · exact hparts c hc

theorem IsWordText.ne_empty {word : String} (h : IsWordText word) : word ≠ "" := by
  rintro rfl
  obtain ⟨c, cs, hword, -, -⟩ := h
  cases hword

/-- A name has no whitespace around it. -/
theorem IsWordText.trimBlank_eq {word : String} (h : IsWordText word) : trimBlank word = word := by
  have hblank : ∀ c ∈ word.toList, isWhitespace c = false := fun c hc =>
    isWhitespace_of_isNamePart (h.isNamePart_of_mem hc)
  have htrimmed : Trimmed isWhitespace word.toList :=
    ⟨fun c hc => hblank c (List.mem_of_mem_head? hc),
      fun c hc => hblank c (List.mem_of_getLast? hc)⟩
  rw [trimBlank, htrimmed.strip_eq, String.ofList_toList]

/-! ### Values that words are read as -/

/-- The value is what a text without digits is read as: a truth value, a text, an infinity, or what is
    no number. -/
def Value.IsWord : Value → Prop
  | .bool _ | .string _ | .float .f64 (.infinite _) | .float .f64 .nan => True
  | _ => False

namespace Assignment

variable {raw : String}

theorem readValue_of_infinity {negative : Bool}
    (h : Spells (signsOf negative) infinityWords raw.toList)
    (hraw : ∀ c ∈ raw.toList, isDigit c = false) :
    readValue raw = .float .f64 (.infinite negative) := by
  rw [readValue, readInt64?_of_forall hraw, read?_of_spells_infinity h]

theorem readValue_of_nan (h : Spells signs nanWords raw.toList)
    (hraw : ∀ c ∈ raw.toList, isDigit c = false) : readValue raw = .float .f64 .nan := by
  rw [readValue, readInt64?_of_forall hraw, read?_of_spells_nan h]

/-- What is no word for a number is read as a truth value or a text, which has the same text. -/
theorem readValue_of_not_spells (h : ¬ Spells signs (infinityWords ++ nanWords) raw.toList)
    (hraw : ∀ c ∈ raw.toList, isDigit c = false) :
    (readValue raw).IsWord ∧ (readValue raw).display = raw := by
  -- of the readings in front of the truth values only that of numbers could take the word
  have hread : FloatFormat.binary64.read? raw.toList = none := by
    by_contra hsome
    obtain ⟨number, hnumber⟩ := Option.ne_none_iff_exists'.1 hsome
    exact h (spells_of_read? hraw hnumber)
  rw [readValue, readInt64?_of_forall hraw, hread]
  dsimp only
  split
  · rename_i htrue
    exact ⟨trivial, htrue.symm⟩
  · split
    · rename_i hfalse
      exact ⟨trivial, hfalse.symm⟩
    · exact ⟨trivial, rfl⟩

/-- A name in front of the first equals sign is assigned what stands behind it. -/
theorem parse_of_word {name : String} (h : IsWordText name) (raw : String) :
    parse (name ++ "=" ++ raw) = .ok (name, readValue raw) := by
  have hname : ∀ c ∈ name.toList, (c != '=') = true := by
    intro c hc
    rw [bne_iff_ne]
    rintro rfl
    cases h.isNamePart_of_mem hc
  have hsource : (name ++ "=" ++ raw).toList = name.toList ++ '=' :: raw.toList := by
    simp
  unfold parse
  rw [hsource, List.takeWhile_append_of_pos hname, List.dropWhile_append_of_pos hname]
  simp [h.trimBlank_eq, h.ne_empty]

end Assignment

/-! ### Formatting them -/

section Formatting

variable {call : FormatCall} {value : Value}

/-- Without settings nothing is selected. -/
theorem FormatCall.selectOr_of_no_settings {nested : NestedRenderer call.settings}
    {kinds : List KeyKind} {otherwise : Bool} {alternative : Except RenderError Fragment}
    (h : call.settings = {}) :
    call.selectOr nested value kinds otherwise alternative = alternative := by
  apply selectOr_of_select_none
  rw [select, h]
  cases otherwise <;> rfl

/-- A number whose text has no decimal point is written alike for every locale. -/
theorem numberText_of_not_mem {number : Floating}
    (h : '.' ∉ (FloatFormat.binary64.text number).toList) (locale : Locale) :
    numberText locale (.float .f64 number) = FloatFormat.binary64.text number := by
  have hkept : ∀ c ∈ (FloatFormat.binary64.text number).toList,
      (if c = '.' then locale.decimalSeparator else c) = c := by
    intro c hc
    rw [if_neg]
    rintro rfl
    exact h hc
  show (if _ then String.ofList ((FloatFormat.binary64.text number).toList.map _) else _) = _
  rw [List.map_congr_left hkept, List.map_id', String.ofList_toList]
  exact ite_self _

theorem Value.IsWord.numberText_eq (h : value.IsWord) (locale : Locale) :
    numberText locale value = value.display := by
  -- a separator is put into floating point numbers only
  match value, h with
  | .bool _, _ | .string _, _ => rfl
  | .float .f64 (.infinite negative), _ =>
    apply numberText_of_not_mem
    cases negative <;> decide
  | .float .f64 .nan, _ =>
    apply numberText_of_not_mem
    decide

/-- A word is formatted as its text. -/
theorem formatValue_of_isWord (h : value.IsWord) (hcontext : call.context = .standard)
    (hsettings : call.settings = {}) (nested : NestedRenderer call.settings) :
    formatValue call nested none value = .ok (.unspaced value.display) := by
  have hresolve : Context.standard.registry.resolve none value.typeName =
      .builtin value.builtin := by
    apply Registry.resolve_standard
    rintro type text rfl
    exact h
  rw [formatValue.eq_def, hcontext, hresolve]
  simp only [FormatCall.selectOr_of_no_settings hsettings, h.numberText_eq]
  cases value with
  | string | bool => rfl
  | float type number =>
    cases type with
    | f32 => exact absurd h id
    | f64 => rfl
  | _ => exact absurd h id

end Formatting

/-! ### Messages of one placeholder -/

/-- The placeholder of a name, with neither format nor settings. -/
def Placeholder.ofName (name : String) : Placeholder := ⟨name, none, {}, false, false⟩

theorem Placeholder.printable_ofName {name : String} (h : IsWordText name) :
    (ofName name).Printable where
  name := h
  format := by
    rintro format ⟨⟩
  settings := ⟨List.Pairwise.nil, by rintro key ⟨⟩, by rintro value ⟨⟩⟩

/-- A name in braces is read as a message of one placeholder. -/
theorem Template.parse_ofName {name : String} (h : IsWordText name) :
    parse ("%\x7b" ++ name ++ "\x7d") = .ok (.single (.placeholder (.ofName name))) := by
  have hplaces : ∀ place, Part.placeholder place ∈ [Part.placeholder (.ofName name)] →
      place.Printable := by
    intro place hp
    obtain rfl := Part.placeholder.inj (List.mem_singleton.1 hp)
    exact Placeholder.printable_ofName h
  have hprintable : Message.Printable (.single (.placeholder (.ofName name))) :=
    ⟨trivial, ⟨.singleton _, List.forall_mem_singleton.2 rfl⟩, hplaces⟩
  have hsource : (Message.single (.placeholder (.ofName name))).source =
      "%\x7b" ++ name ++ "\x7d" := by
    simp [Message.source, Message.partSource, Message.placeSource, Placeholder.ofName, spaceIf,
      Part.spaceBefore, Part.spaceAfter, Settings.isEmpty]
  rw [← hsource, parse_printed hprintable]
  rfl

/-- A message with a code that is the placeholder of a name in every locale. -/
def Message.ofName (code name : String) : Message :=
  .coded code (.localized [(.root, .single (.placeholder (.ofName name)))])

/-- The bundle of such a message. -/
def Bundle.ofName (code name : String) : Bundle := ⟨[(code, .ofName code name)]⟩

theorem Message.forLocale_ofName (code name : String) (locale : Locale) :
    (Message.ofName code name).forLocale locale = .single (.placeholder (.ofName name)) := by
  obtain ⟨variant, hvariant⟩ : ∃ variant,
      selectVariant [(.root, Message.single (.placeholder (.ofName name)))] locale = some variant :=
    exists_selectVariant (List.cons_ne_nil _ _)
  obtain ⟨other, hother⟩ := mem_of_selectVariant hvariant
  obtain ⟨-, rfl⟩ := Prod.mk.inj (List.mem_singleton.1 hother)
  have hplain : ∀ variants,
      (Message.single (.placeholder (.ofName name))).withoutCode ≠ .localized variants := by
    intro variants h
    cases h
  rw [forLocale_of_select rfl hvariant, forLocale_of_not_localized hplain]
  rfl

/-- A word that a placeholder shows is shown without the spaces around it. -/
theorem renderMessage_ofName {name : String} {value : Value} {parameters : Parameters}
    (hvalue : parameters.get? name = some value) (h : value.IsWord) :
    renderMessage .standard parameters (.single (.placeholder (.ofName name))) =
      .ok (.unspaced value.display) := by
  have hfound : Context.standard.valueOf parameters (Placeholder.ofName name).name = .ok value := by
    rw [Placeholder.ofName, Context.valueOf, hvalue]
  have hpart : renderPart .standard parameters (.placeholder (.ofName name)) =
      .ok (.unspaced value.display) := by
    rw [renderPart, renderPlaceholder_eq, hfound]
    show ((formatValue _ _ none value).map _).mapError _ = _
    rw [formatValue_of_isWord h rfl rfl]
    rfl
  -- a single part is not joined with anything
  rw [renderMessage_parts (by simp) (by simp)]
  show ((renderPart .standard parameters (.placeholder (.ofName name)) >>= _).map _) = _
  rw [hpart]
  rfl

/-! ### On the command line -/

namespace Command

variable {name raw : String} {tag : Option String} {locale : Locale} {bundle : Bundle}
  {code : String} {message : Message}

theorem readParameters_of_word (hname : IsWordText name)
    (hlocale : Locale.parse (tag.getD "") = .ok locale) :
    readParameters tag [name ++ "=" ++ raw] =
      .ok (({ locale } : Parameters).insert name (Assignment.readValue raw)) := by
  rw [readParameters, hlocale]
  show (Assignment.parseAll [name ++ "=" ++ raw] { locale }).mapError CommandError.assignment = _
  rw [Assignment.parseAll, List.foldlM_cons, Assignment.parse_of_word hname]
  rfl

/-- A word is shown as the value that it is read as. -/
theorem formatMessage_of_isWord (hname : IsWordText name)
    (hlocale : Locale.parse (tag.getD "") = .ok locale) (hmessage : bundle.get? code = some message)
    (hvariant : message.forLocale locale = .single (.placeholder (.ofName name)))
    (hword : (Assignment.readValue raw).IsWord) :
    formatMessage .standard bundle code tag [name ++ "=" ++ raw] =
      .ok (trimSpaces (Assignment.readValue raw).display) := by
  let parameters : Parameters := ({ locale } : Parameters).insert name (Assignment.readValue raw)
  have hvalue : parameters.get? name = some (Assignment.readValue raw) := by
    rw [Parameters.get?_insert, if_pos rfl]
  have hshown := renderMessage_ofName hvalue hword
  have hrender : renderMessage .standard parameters message =
      .ok (.unspaced (Assignment.readValue raw).display) := by
    have hvariant' : message.forLocale (Context.standard.localeFor parameters) = _ := hvariant
    -- the message is rendered like the variant, up to places in errors, and there is no error
    have hsame : unplaced (renderMessage .standard parameters (message.forLocale _)) = _ :=
      unplaced_renderMessage_forLocale message
    rw [hvariant'] at hsame
    rcases cases_of_unplaced_eq hsame with ⟨fragment, hfragment, hmessage'⟩ | ⟨e, _, he, -⟩
    · rw [hmessage', ← hfragment, hshown]
    · cases hshown.symm.trans he
  rw [formatMessage, readParameters_of_word hname hlocale]
  show (bundle.render .standard code parameters).mapError CommandError.message = _
  rw [Bundle.render_of_get? hmessage, render, hrender]
  rfl

/-- A message that is the placeholder of a name shows a word without digits as it was given, up to
    the spaces around it, unless the word is one for a floating point number. These are shown in
    one spelling for each number. -/
theorem formatMessage_word (hname : IsWordText name)
    (hraw : ∀ c ∈ raw.toList, isDigit c = false) :
    let shown : Message := .single (.placeholder (.ofName name))
    Template.parse ("%\x7b" ++ name ++ "\x7d") = .ok shown ∧
    ∀ (bundle : Bundle) (code : String) (tag : Option String) (locale : Locale) (message : Message),
      Locale.parse (tag.getD "") = .ok locale → bundle.get? code = some message →
      message.forLocale locale = shown →
      let printed := formatMessage .standard bundle code tag [name ++ "=" ++ raw]
      (¬ Spells signs (infinityWords ++ nanWords) raw.toList → printed = .ok (trimSpaces raw)) ∧
      (∀ negative, Spells (signsOf negative) infinityWords raw.toList →
        printed = .ok (if negative then "-inf" else "inf")) ∧
      (Spells signs nanWords raw.toList → printed = .ok "NaN") := by
  intro shown
  refine ⟨Template.parse_ofName hname, ?_⟩
  intro bundle code tag locale message hlocale hmessage hvariant printed
  have hprinted (hword : (Assignment.readValue raw).IsWord) :
      printed = .ok (trimSpaces (Assignment.readValue raw).display) :=
    formatMessage_of_isWord hname hlocale hmessage hvariant hword
  refine ⟨?_, ?_, ?_⟩
  · intro hnot
    obtain ⟨hword, hdisplay⟩ := Assignment.readValue_of_not_spells hnot hraw
    rw [hprinted hword, hdisplay]
  · intro negative hinfinity
    have hvalue := Assignment.readValue_of_infinity hinfinity hraw
    rw [hprinted (hvalue ▸ trivial), hvalue]
    cases negative <;> rfl
  · intro hnan
    have hvalue := Assignment.readValue_of_nan hnan hraw
    rw [hprinted (hvalue ▸ trivial), hvalue]
    rfl

/-- A metal in spaces, an infinity below all numbers, and no number. -/
theorem formatMessage_word_metal :
    let print assignment := formatMessage .standard (.ofName "A" "n") "A" (some "de") [assignment]
    print "n= gold " = .ok "gold" ∧ print "n=-Infinity" = .ok "-inf" ∧
      print "n=+nan" = .ok "NaN" := by
  intro print
  have hname : IsWordText "n" := isWordText_cons rfl (by decide) (by decide)
  have hlocale : Locale.parse ((some "de").getD "") = .ok ⟨"de", none⟩ := rfl
  have hword (raw : String) (hraw : raw.toList.any isDigit = false) :=
    (formatMessage_word hname (isDigit_of_any_eq_false hraw)).2 (.ofName "A" "n") "A" (some "de")
      _ _ hlocale rfl (Message.forLocale_ofName "A" "n" _)
  refine ⟨?_, ?_, ?_⟩
  · exact (hword " gold " (by decide)).1 (by decide)
  · exact (hword "-Infinity" (by decide)).2.1 true (by decide)
  · exact (hword "+nan" (by decide)).2.2 (by decide)

/-- A word for an infinity is not shown as it was given, although it has no digits. -/
theorem not_formatMessage_infinity :
    IsNameText "n" ∧ (∀ c ∈ "infinity".toList, isDigit c = false) ∧
      Template.parse "%\x7bn\x7d" = .ok (.single (.placeholder (.ofName "n"))) ∧
      (Message.ofName "A" "n").forLocale .root = .single (.placeholder (.ofName "n")) ∧
      formatMessage .standard (.ofName "A" "n") "A" none ["n=infinity"] = .ok "inf" ∧
      trimSpaces "infinity" ≠ "inf" := by
  have hname : IsWordText "n" := isWordText_cons rfl (by decide) (by decide)
  have hraw : ∀ c ∈ "infinity".toList, isDigit c = false := isDigit_of_any_eq_false (by decide)
  have hvariant := Message.forLocale_ofName "A" "n" .root
  have hvalue : Assignment.readValue "infinity" = .float .f64 (.infinite false) :=
    Assignment.readValue_of_infinity (by decide) hraw
  have hword : (Assignment.readValue "infinity").IsWord := hvalue ▸ trivial
  have hlocale : Locale.parse ((none : Option String).getD "") = .ok .root := rfl
  have hmessage : (Bundle.ofName "A" "n").get? "A" = some (.ofName "A" "n") := rfl
  have hprinted := formatMessage_of_isWord hname hlocale hmessage hvariant hword
  rw [hvalue] at hprinted
  exact ⟨⟨hname, by decide⟩, hraw, Template.parse_ofName hname, hvariant, hprinted, by decide⟩

end Command

end Phrasebook
