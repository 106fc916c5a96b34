import Phrasebook.Proofs.Bundle.Compiled
import Phrasebook.Proofs.Rendering.Errors
import Phrasebook.Proofs.Template.RoundTrip
import Phrasebook.Proofs.Text.Quoting
import Phrasebook.Table

/-! # What checking a table tells

    A check reads the template of every row and reports the refused ones. It neither compares
    locales nor reads the templates that are quoted in the settings of placeholders, which are read
    when they are needed. So it decides whether a table is compiled up to repeated locales, and
    whether the messages can be rendered up to quoted templates. -/

namespace Phrasebook

/-! ### Well nested messages -/

namespace Message

theorem WellNested.coded {message : Message} (h : message.WellNested) (code : String) :
    (Message.coded code message).WellNested := by
  constructor
  · intro e he
    cases he with
    | value hp => cases hp
  · intro inner hi
    cases hi with
    | coded => exact h
    | value hp => cases hp

theorem WellNested.localized {variants : List (Locale × Message)}
    (h : ∀ variant ∈ variants, variant.2.WellNested) : (Message.localized variants).WellNested := by
  constructor
  · intro e he
    cases he with
    | value hp => cases hp
  · intro inner hi
    cases hi with
    | variant hv => exact h _ hv
    | value hp => cases hp

theorem wellNested_literal (text : Literal) : (Message.single (.literal text)).WellNested := by
  constructor
  · intro e
    exact not_nests_literal text _
  · intro inner hi
    exact absurd hi (not_nests_literal text _)

/-- A placeholder is well nested if every value in its settings is read as such a message. -/
theorem wellNested_place {place : Placeholder}
    (h : ∀ v ∈ place.settings.values, ∃ inner, v.toMessage = .ok inner ∧ inner.WellNested) :
    (Message.single (.placeholder place)).WellNested := by
  have hread : ∀ read, (Message.single (.placeholder place)).Nests read →
      ∃ inner, read = .ok inner ∧ inner.WellNested := by
    intro read hn
    cases hn with
    | value hp hv hr =>
      obtain rfl := Part.placeholder.inj (List.mem_singleton.1 hp)
      obtain ⟨inner, hi, hw⟩ := h _ (Settings.mem_values_of_mem_messageValues hv)
      exact ⟨inner, hr.symm.trans hi, hw⟩
  constructor
  · intro e he
    obtain ⟨inner, herror, -⟩ := hread _ he
    cases herror
  · intro inner hi
    obtain ⟨other, hinner, hw⟩ := hread _ hi
    obtain rfl := Except.ok.inj hinner
    exact hw

end Message

/-! ### Checking -/

namespace Table

/-- Nothing is reported exactly if all templates can be read. -/
theorem check_eq_nil_iff {rows : List TableRow} : check rows = [] ↔ Bundle.AllParse rows := by
  unfold check Bundle.AllParse
  rw [List.filterMap_eq_nil_iff]
  apply forall₂_congr
  intro row _
  unfold Template.parseCoded
  cases Template.parse row.template with
  | ok message => simp
  | error e => simp

end Table

/-- A choice is read from its source, if its strings have neither backslashes nor apostrophes. -/
theorem Template.parse_choice (settings : Settings SettingValue) (hdistinct : settings.Distinct)
    (hkeys : ∀ key ∈ settings.keys, key.Printable)
    (hvalues : ∀ v ∈ settings.values, ∃ source : String,
      v = .string ⟨source, source⟩ ∧ '\\' ∉ source.toList ∧ '\'' ∉ source.toList) :
    Template.parse (Message.placeSource ⟨"n", some "choice", settings, false, false⟩) =
      .ok (.single (.placeholder ⟨"n", some "choice", settings, false, false⟩)) := by
  have hname : IsWordText "n" := isWordText_cons rfl (by decide) (by decide)
  have hformat : IsNameText "choice" :=
    ⟨isWordText_cons rfl (by decide) (by decide), by decide⟩
  apply parse_placeSource
  · refine ⟨hname, ?_, hdistinct, hkeys, ?_⟩
    · intro format hf
      obtain rfl := Option.some.inj hf
      exact hformat
    · intro v hv
      obtain ⟨source, rfl, hbackslash, -⟩ := hvalues v hv
      exact Escaped.of_not_mem (fun _ _ => trivial) hbackslash
  · exact ⟨rfl, rfl⟩
  · intro quoted hq
    obtain ⟨v, hv, hquoted⟩ := List.mem_filterMap.1 hq
    obtain ⟨source, rfl, hbackslash, hapostrophe⟩ := hvalues v hv
    obtain rfl := Option.some.inj hquoted
    exact ⟨(unescape_of_not_mem hbackslash).symm, fun h => absurd h hapostrophe⟩

namespace Bundle

variable {rows : List TableRow} {code : String} {context : Context} {parameters : Parameters}

/-- The templates that can be read are well nested. -/
def AllNested (rows : List TableRow) : Prop :=
  ∀ row ∈ rows, ∀ message, Template.parse row.template = .ok message → message.WellNested

theorem wellNested_messageOf (h : AllParse rows) (hn : AllNested rows) (code : String) :
    (messageOf rows code).WellNested := by
  apply Message.WellNested.coded
  apply Message.WellNested.localized
  intro variant hv
  obtain ⟨row, hr, -, rfl⟩ := mem_variantsOf.1 hv
  exact hn row hr _ (h.said hr)

/-- In a context that puts up with missing parameters, a message of the bundle is rendered, or a
    quoted template in it is refused. -/
theorem failsOnly_render {message : Message} {bundle : Bundle} (hb : context.registry.AllBuiltin)
    (hlenient : context.strict = false) (hget : bundle.get? code = some message) :
    FailsOnly (fun failure => ¬ message.WellNested ∧
        ∃ e template, failure = .rendering e ∧ e.cause = .nestedTemplate template)
      (bundle.render context code parameters) := by
  -- the causes that rendering is left with
  let allowed (cause : RenderCause) : Prop :=
    ¬ message.WellNested ∧ ∃ template, cause = .nestedTemplate template
  have hmissing : ∀ name, context.strict = true → parameters.get? name = none →
      allowed (.missingParameter name) := by
    intro name hstrict
    exact absurd (hlenient.symm.trans hstrict) Bool.false_ne_true
  have hrendered : FailsOnly (fun e => allowed e.cause)
      (renderMessage context parameters message) := by
    apply FailsOnly.renderMessage hb hmissing
    by_cases hw : message.WellNested
    · exact .inl hw
    · exact .inr fun template => ⟨hw, template, rfl⟩
  intro failure hfailure
  rw [render_of_get? hget] at hfailure
  cases hr : Phrasebook.render context message parameters with
  | ok text =>
    rw [hr] at hfailure
    cases hfailure
  | error e =>
    rw [hr] at hfailure
    obtain rfl := Except.error.inj hfailure
    obtain ⟨hw, template, hcause⟩ := hrendered.map Fragment.text e hr
    exact ⟨hw, e.withCode code, template, rfl, hcause⟩

/-- Of the messages of a compiled table, only those with a refused quoted template fail. -/
theorem failsOnly_render_of_compile {bundle : Bundle} (hb : context.registry.AllBuiltin)
    (hlenient : context.strict = false) (hbundle : compile rows = .ok bundle)
    (hcode : code ∈ bundle.codes) :
    FailsOnly (fun failure => ¬ AllNested rows ∧
        ∃ e template, failure = .rendering e ∧ e.cause = .nestedTemplate template)
      (bundle.render context code parameters) := by
  obtain ⟨-, hparse, rfl⟩ := compile_eq_ok_iff.1 hbundle
  rw [codes_bundleOf] at hcode
  intro failure hfailure
  obtain ⟨hnested, herror⟩ := failsOnly_render hb hlenient (get?_bundleOf hcode) failure hfailure
  refine ⟨?_, herror⟩
  intro hn
  exact hnested (wellNested_messageOf hparse hn code)

/-- A table is compiled exactly if nothing is reported and no code has a locale twice. -/
theorem compiled_iff_check :
    (∃ bundle, compile rows = .ok bundle) ↔
      Table.check rows = [] ∧ (rows.map TableRow.key).Nodup := by
  rw [Table.check_eq_nil_iff]
  constructor
  · rintro ⟨bundle, hbundle⟩
    obtain ⟨hkeys, hparse, -⟩ := compile_eq_ok_iff.1 hbundle
    exact ⟨hparse, hkeys⟩
  · rintro ⟨hparse, hkeys⟩
    exact ⟨_, compile_of_nodup hkeys hparse⟩

/-- A table is compiled exactly if nothing is reported and no code has a locale twice. If it is, its
    messages are rendered whatever the parameters are, except where a quoted template is refused. So
    for tables without repeated locales and refused quoted templates, nothing is reported exactly if
    the table is compiled and all its messages are rendered. -/
theorem compile_and_render_iff_check (policy : PoolPolicy) (calls : List PoolCall)
    (rows : List TableRow) (context : Context) (hb : context.registry.AllBuiltin)
    (hlenient : context.strict = false) :
    let compiled := ((Pool.compile rows).run.run (Pool.after policy calls)).1
    ((∃ bundle, compiled = .ok bundle) ↔
        Table.check rows = [] ∧ (rows.map TableRow.key).Nodup) ∧
      (∀ bundle, compiled = .ok bundle → ∀ code ∈ bundle.codes, ∀ parameters failure,
        bundle.render context code parameters = .error failure →
          ¬ AllNested rows ∧
            ∃ e template, failure = .rendering e ∧ e.cause = .nestedTemplate template) ∧
      ((rows.map TableRow.key).Nodup → AllNested rows →
        (Table.check rows = [] ↔
          ∃ bundle, compiled = .ok bundle ∧ ∀ code ∈ bundle.codes, ∀ parameters,
            ∃ text, bundle.render context code parameters = .ok text)) := by
  intro compiled
  have hcompiled : compiled = compile rows := Pool.compile_after policy calls rows
  rw [hcompiled]
  refine ⟨compiled_iff_check, ?_, ?_⟩
  · intro bundle hbundle code hcode parameters
    exact failsOnly_render_of_compile hb hlenient hbundle hcode
  · intro hkeys hnested
    constructor
    · intro hcheck
      obtain ⟨bundle, hbundle⟩ := compiled_iff_check.2 ⟨hcheck, hkeys⟩
      refine ⟨bundle, hbundle, ?_⟩
      intro code hcode parameters
      cases hr : bundle.render context code parameters with
      | ok text => exact ⟨text, rfl⟩
      | error failure =>
        have hfails := failsOnly_render_of_compile hb hlenient hbundle hcode failure hr
        exact absurd hnested hfails.1
    · rintro ⟨bundle, hbundle, -⟩
      exact (compiled_iff_check.1 ⟨bundle, hbundle⟩).1

/-- A choice that says a word for null, and quotes a template for everything else. -/
def countChoice (word : String) : Placeholder :=
  ⟨"n", some "choice", ⟨[(.null .eq, .string ⟨word, word⟩)],
    some (.string ⟨"%\x7bn\x7d", "%\x7bn\x7d"⟩)⟩, false, false⟩

theorem parse_countChoice : ∀ word ∈ ["none", "keine"],
    Template.parse (Message.placeSource (countChoice word)) =
      .ok (.single (.placeholder (countChoice word))) := by
  intro word hw
  have hword : '\\' ∉ word.toList ∧ '\'' ∉ word.toList := by
    simp only [List.mem_cons, List.not_mem_nil, or_false] at hw
    rcases hw with rfl | rfl <;> decide
  apply Template.parse_choice (countChoice word).settings
  · exact List.nodup_singleton _
  · exact List.forall_mem_singleton.2 (.inl rfl)
  · intro v hv
    have hv : v ∈ [.string ⟨word, word⟩, .string ⟨"%\x7bn\x7d", "%\x7bn\x7d"⟩] := hv
    simp only [List.mem_cons, List.not_mem_nil, or_false] at hv
    rcases hv with rfl | rfl
    · exact ⟨word, rfl, hword⟩
    · exact ⟨_, rfl, by decide, by decide⟩

/-- A table of two codes, of which one has two locales and quotes a template. -/
theorem compile_and_render_iff_check_count :
    let rows : List TableRow :=
      [⟨"count", ⟨"en", none⟩, "%\x7bn,choice,null:'none',:'%\x7bn\x7d'\x7d"⟩,
        ⟨"total", .root, "%\x7bn\x7d"⟩,
        ⟨"count", ⟨"de", none⟩, "%\x7bn,choice,null:'keine',:'%\x7bn\x7d'\x7d"⟩]
    Context.standard.registry.AllBuiltin ∧ Context.standard.strict = false ∧
      (rows.map TableRow.key).Nodup ∧ AllNested rows ∧ Table.check rows = [] ∧
      ∃ bundle, ((Pool.compile rows).run.run (Pool.after .unbounded [])).1 = .ok bundle ∧
        ∀ code ∈ bundle.codes, ∀ parameters,
          ∃ text, bundle.render .standard code parameters = .ok text := by
  intro rows
  have hnumber : Template.parse "%\x7bn\x7d" =
      .ok (.single (.placeholder ⟨"n", none, {}, false, false⟩)) := by
    apply Template.parse_placeSource ⟨"n", none, {}, false, false⟩
    · refine ⟨isWordText_cons rfl (by decide) (by decide), by simp, ?_⟩
      constructor <;> simp [Settings.Distinct, Settings.keys, Settings.values]
    · exact ⟨rfl, rfl⟩
    · intro quoted hq
      cases hq
  have hwords : ∀ word ∈ ["none", "keine"],
      Template.parse word = .ok (.single (.literal { text := word })) := by
    simp only [List.forall_mem_cons, List.not_mem_nil, false_imp_iff, implies_true, and_true]
    constructor <;> exact Template.parse_of_scanStep (by decide) (by cbv)
  have hwell : (Message.single (.placeholder ⟨"n", none, {}, false, false⟩)).WellNested :=
    Message.wellNested_place fun v hv => absurd hv List.not_mem_nil
  have hcount : ∀ word ∈ ["none", "keine"],
      (Message.single (.placeholder (countChoice word))).WellNested := by
    intro word hw
    apply Message.wellNested_place
    intro v hv
    have hv : v ∈ [.string ⟨word, word⟩, .string ⟨"%\x7bn\x7d", "%\x7bn\x7d"⟩] := hv
    simp only [List.mem_cons, List.not_mem_nil, or_false] at hv
    rcases hv with rfl | rfl
    · exact ⟨_, hwords word hw, Message.wellNested_literal _⟩
    · exact ⟨_, hnumber, hwell⟩
  have hread : ∀ row ∈ rows, ∃ message,
      Template.parse row.template = .ok message ∧ message.WellNested := by
    simp only [rows, List.forall_mem_cons, List.not_mem_nil, false_imp_iff, implies_true, and_true]
    exact ⟨⟨_, parse_countChoice "none" (by decide), hcount "none" (by decide)⟩,
      ⟨_, hnumber, hwell⟩, ⟨_, parse_countChoice "keine" (by decide), hcount "keine" (by decide)⟩⟩
  have hcheck : Table.check rows = [] := by
    apply Table.check_eq_nil_iff.2
    intro row hr
    obtain ⟨message, hm, -⟩ := hread row hr
    exact ⟨message, hm⟩
  have hkeys : (rows.map TableRow.key).Nodup := by decide
  have hnested : AllNested rows := by
    intro row hr message hm
    obtain ⟨other, ho, hw⟩ := hread row hr
    obtain rfl := Except.ok.inj (ho.symm.trans hm)
    exact hw
  have hstandard := Registry.allBuiltin_standard
  refine ⟨hstandard, rfl, hkeys, hnested, hcheck, ?_⟩
  exact ((compile_and_render_iff_check .unbounded [] rows .standard hstandard rfl).2.2 hkeys
    hnested).1 hcheck

end Bundle

/-! ### Tables that pass -/

/-- A string is one token. -/
theorem jsonTokens?_string {cs rest : List Char} {text : String} {tokens : List JsonToken}
    (hs : (scanJsonString cs).map (fun scanned =>
      ((joinPieces scanned.1).map String.ofList, scanned.2)) = some (some text, rest))
    (hr : jsonTokens? rest = some tokens) :
    jsonTokens? ('"' :: cs) = some (.scalar (.string (some text)) :: tokens) := by
  obtain ⟨⟨pieces, rest'⟩, hscan, heq⟩ := Option.map_eq_some_iff.1 hs
  obtain ⟨htext, rfl⟩ := Prod.mk.inj heq
  rw [jsonTokens?, if_neg (by decide), if_pos rfl]
  split
  · rename_i pieces' rest' hscan'
    obtain ⟨rfl, rfl⟩ := Prod.mk.inj (Option.some.inj (hscan.symm.trans hscan'))
    rw [hr, htext]
    rfl
  · rename_i hscan'
    cases hscan.symm.trans hscan'

/-- A brace, a colon or a comma is one token. -/
theorem jsonTokens?_mark {c : Char} {cs : List Char} {token : JsonToken} {tokens : List JsonToken}
    (hc : c ∈ ['\x7b', '\x7d', ':', ',']) (hm : jsonMark? c = some token)
    (hr : jsonTokens? cs = some tokens) : jsonTokens? (c :: cs) = some (token :: tokens) := by
  have hplain : ['\x7b', '\x7d', ':', ','].all (fun c =>
      !isJsonSpace c && c != '"' && !c.isAlpha && !isNumberChar c) = true := by
    decide
  have hmark := List.all_eq_true.1 hplain c hc
  simp only [Bool.and_eq_true, Bool.not_eq_true', bne_iff_ne] at hmark
  obtain ⟨⟨⟨hspace, hquote⟩, halpha⟩, hnumber⟩ := hmark
  rw [jsonTokens?, if_neg (by simp [hspace]), if_neg hquote, if_neg (by simp [halpha]),
    if_neg (by simp [hnumber]), hm, hr]
  rfl

/-- The tags of a table differ in case only, so they name the same locale. -/
theorem Table.parse_twice :
    Table.parse "\x7b\"A\":\x7b\"en\":\"a\",\"EN\":\"b\"\x7d\x7d" =
      .ok [⟨"A", ⟨"en", none⟩, "a"⟩, ⟨"A", ⟨"en", none⟩, "b"⟩] := by
  have htokens : jsonTokens? "\x7b\"A\":\x7b\"en\":\"a\",\"EN\":\"b\"\x7d\x7d".toList =
      some [.objectStart, .scalar (.string (some "A")), .colon,
        .objectStart, .scalar (.string (some "en")), .colon, .scalar (.string (some "a")), .comma,
        .scalar (.string (some "EN")), .colon, .scalar (.string (some "b")), .objectEnd,
        .objectEnd] := by
    show jsonTokens? ['\x7b', '"', 'A', '"', ':', '\x7b', '"', 'e', 'n', '"', ':', '"', 'a', '"',
      ',', '"', 'E', 'N', '"', ':', '"', 'b', '"', '\x7d', '\x7d'] = _
    apply jsonTokens?_mark (by decide) rfl
    apply jsonTokens?_string rfl
    apply jsonTokens?_mark (by decide) rfl
    apply jsonTokens?_mark (by decide) rfl
    apply jsonTokens?_string rfl
    apply jsonTokens?_mark (by decide) rfl
    apply jsonTokens?_string rfl
    apply jsonTokens?_mark (by decide) rfl
    apply jsonTokens?_string rfl
    apply jsonTokens?_mark (by decide) rfl
    apply jsonTokens?_string rfl
    apply jsonTokens?_mark (by decide) rfl
    apply jsonTokens?_mark (by decide) rfl
    rw [jsonTokens?]
  unfold Table.parse Table.readCodes? JsonValue.read?
  rw [htokens]
  rfl

/-- The only template of a table quotes an opening brace that is not closed. -/
theorem Table.parse_quoted :
    Table.parse "\x7b\"A\":\x7b\"\":\"%\x7bn,choice,:'%\x7b'\x7d\"\x7d\x7d" =
      .ok [⟨"A", .root, "%\x7bn,choice,:'%\x7b'\x7d"⟩] := by
  have htokens :
      jsonTokens? "\x7b\"A\":\x7b\"\":\"%\x7bn,choice,:'%\x7b'\x7d\"\x7d\x7d".toList =
        some [.objectStart, .scalar (.string (some "A")), .colon,
          .objectStart, .scalar (.string (some "")), .colon,
          .scalar (.string (some "%\x7bn,choice,:'%\x7b'\x7d")), .objectEnd, .objectEnd] := by
    show jsonTokens? ['\x7b', '"', 'A', '"', ':', '\x7b', '"', '"', ':', '"', '%', '\x7b', 'n',
      ',', 'c', 'h', 'o', 'i', 'c', 'e', ',', ':', '\'', '%', '\x7b', '\'', '\x7d', '"', '\x7d', '\x7d'] = _
    apply jsonTokens?_mark (by decide) rfl
    apply jsonTokens?_string rfl
    apply jsonTokens?_mark (by decide) rfl
    apply jsonTokens?_mark (by decide) rfl
    apply jsonTokens?_string rfl
    apply jsonTokens?_mark (by decide) rfl
    apply jsonTokens?_string rfl
    apply jsonTokens?_mark (by decide) rfl
    apply jsonTokens?_mark (by decide) rfl
    rw [jsonTokens?]
  unfold Table.parse Table.readCodes? JsonValue.read?
  rw [htokens]
  rfl

/-- A choice whose only value is no template. -/
def unclosedChoice : Placeholder :=
  ⟨"n", some "choice", ⟨[], some (.string ⟨"%\x7b", "%\x7b"⟩)⟩, false, false⟩

theorem Template.parse_unclosed : ∃ e, Template.parse "%\x7b" = .error e := by
  have hopen : scanStep 2 .text ['%', '\x7b'] = .ok (some ⟨[⟨.placeholderStart, 0, 2, "%\x7b"⟩],
      .placeholder 0 0, []⟩) := rfl
  have htokens : tokenize "%\x7b" = .error ⟨.unclosedPlaceholder, Span.between 0 2⟩ := by
    show scanTokens 2 .text ['%', '\x7b'] = _
    rw [scanTokens_eq_map hopen, scanTokens.eq_def]
    rfl
  refine ⟨⟨"%\x7b", ⟨.unclosedPlaceholder, Span.between 0 2⟩, none, none, none⟩, ?_⟩
  unfold Template.parse Template.parse?
  rw [htokens]

theorem Template.parse_unclosedChoice :
    Template.parse "%\x7bn,choice,:'%\x7b'\x7d" = .ok (.single (.placeholder unclosedChoice)) := by
  apply Template.parse_choice unclosedChoice.settings
  · exact List.nodup_nil
  · intro key hk
    cases hk
  · intro v hv
    obtain rfl := List.mem_singleton.1 hv
    exact ⟨_, rfl, by decide, by decide⟩

/-- Without a value for the parameter, the choice asks for the quoted template. -/
theorem renderMessage_unclosedChoice {e : TemplateError} (he : Template.parse "%\x7b" = .error e) :
    renderMessage .standard {} (.single (.placeholder unclosedChoice)) =
      .error ⟨.nestedTemplate e, none, none, none, some "n"⟩ := by
  let value : SettingValue := .string ⟨"%\x7b", "%\x7b"⟩
  have hnested : renderNested .standard {} value = .error { cause := .nestedTemplate e } := by
    unfold renderNested
    rw [show value.toMessage = .error e from he]
  have hvalue : (Context.standard.valueOf {} unclosedChoice.name >>=
      formatValue ⟨.standard, {}, unclosedChoice.settings⟩
        (fun value _ => renderNested .standard {} value) unclosedChoice.format) =
          .error { cause := .nestedTemplate e } := by
    show formatValue _ _ (some "choice") .null = _
    rw [formatValue.eq_def]
    exact hnested
  have hpart : renderPart .standard {} (.placeholder unclosedChoice) =
      .error ⟨.nestedTemplate e, none, none, none, some "n"⟩ := by
    show renderPlaceholder .standard {} unclosedChoice _ = _
    exact renderPlaceholder_of_error hvalue
  rw [renderMessage_parts (by simp) (by simp)]
  show (renderPart .standard {} (.placeholder unclosedChoice) >>= _).map _ = _
  rw [hpart]
  rfl

/-- A check passes a table that is not compiled, and one that is compiled to a message that can not
    be rendered. -/
theorem check_passes_refused :
    let twice := "\x7b\"A\":\x7b\"en\":\"a\",\"EN\":\"b\"\x7d\x7d"
    let quoted := "\x7b\"A\":\x7b\"\":\"%\x7bn,choice,:'%\x7b'\x7d\"\x7d\x7d"
    (∃ rows, Table.parse twice = .ok rows ∧ Table.check rows = [] ∧
      ∀ bundle, Bundle.compile rows ≠ .ok bundle) ∧
    ∃ rows bundle e template, Table.parse quoted = .ok rows ∧ Table.check rows = [] ∧
      Bundle.compile rows = .ok bundle ∧ "A" ∈ bundle.codes ∧
        bundle.render .standard "A" {} = .error (.rendering e) ∧
          e.cause = .nestedTemplate template := by
  intro twice quoted
  constructor
  · have ha : Template.parse "a" = .ok (.single (.literal { text := "a" })) :=
      Template.parse_of_scanStep (by decide) (by cbv)
    have hb : Template.parse "b" = .ok (.single (.literal { text := "b" })) :=
      Template.parse_of_scanStep (by decide) (by cbv)
    refine ⟨_, Table.parse_twice, ?_, ?_⟩
    · apply Table.check_eq_nil_iff.2
      exact List.forall_mem_cons.2 ⟨⟨_, ha⟩, List.forall_mem_singleton.2 ⟨_, hb⟩⟩
    · intro bundle hbundle
      exact absurd (Bundle.compile_eq_ok_iff.1 hbundle).1 (by decide)
  · obtain ⟨e, he⟩ := Template.parse_unclosed
    let row : TableRow := ⟨"A", .root, "%\x7bn,choice,:'%\x7b'\x7d"⟩
    have hparse : Bundle.AllParse [row] :=
      List.forall_mem_singleton.2 ⟨_, Template.parse_unclosedChoice⟩
    have hcode : "A" ∈ Bundle.codesOf [row] :=
      Bundle.mem_codesOf.2 ⟨row, List.mem_singleton_self _, rfl⟩
    have hrow : Bundle.rowFor [row] "A" (Context.standard.localeFor {}) = some row := rfl
    have hsaid : Template.said row.template = .single (.placeholder unclosedChoice) :=
      Template.said_of_parse Template.parse_unclosedChoice
    have hrendered := Bundle.renderMessage_messageOf hrow
    rw [hsaid, renderMessage_unclosedChoice he] at hrendered
    have hfails : (Bundle.bundleOf [row]).render .standard "A" {} = .error (.rendering
        ⟨.nestedTemplate e, some "A", none, some .root, some "n"⟩) := by
      rw [Bundle.render_of_get? (Bundle.get?_bundleOf hcode), render, hrendered]
      rfl
    refine ⟨[row], Bundle.bundleOf [row], _, e, Table.parse_quoted, Table.check_eq_nil_iff.2 hparse,
      Bundle.compile_of_nodup (by decide) hparse, ?_, hfails, rfl⟩
    rw [Bundle.codes_bundleOf]
    exact hcode

end Phrasebook
