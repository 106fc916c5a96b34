import Phrasebook.Proofs.Bundle.Adding
import Phrasebook.Proofs.Bundle.Grouping
import Phrasebook.Proofs.Pack.RoundTrip
import Phrasebook.Proofs.Pack.Templates
import Phrasebook.Proofs.Rendering.Message
import Phrasebook.Proofs.Sharing.Calls
import Phrasebook.Sharing.Table

/-! # Compiled tables say what their rows say

    A bundle that is compiled from a table has a message for every code, with a variant for each row
    of the code. Which variant is rendered is decided by locales alone, so a code is rendered like
    the template of the row that the locales pick. Packing and unpacking the bundle changes nothing
    of that, and neither does the pool that its messages are shared with. -/

namespace Phrasebook

/-! ### Messages of codes -/

namespace Bundle

variable {rows : List TableRow} {code : String} {context : Context} {parameters : Parameters}

/-- The message that a table gives a code. -/
def messageOf (rows : List TableRow) (code : String) : Message :=
  .coded code (.localized (variantsOf (fun row => Template.said row.template) rows code))

/-- The bundle of a table. -/
def bundleOf (rows : List TableRow) : Bundle :=
  ⟨(codesOf rows).map fun code => (code, messageOf rows code)⟩

@[simp] theorem codes_bundleOf (rows : List TableRow) : (bundleOf rows).codes = codesOf rows := by
  rw [codes, bundleOf, List.map_map]
  exact List.map_id' _

/-- Every template of the table can be read. -/
def AllParse (rows : List TableRow) : Prop :=
  ∀ row ∈ rows, ∃ message, Template.parse row.template = .ok message

theorem AllParse.said (h : AllParse rows) {row : TableRow} (hr : row ∈ rows) :
    Template.parse row.template = .ok (Template.said row.template) := by
  obtain ⟨message, hm⟩ := h row hr
  exact Template.parse_eq_ok_said hm

theorem parseLocalized_variantsOf (h : AllParse rows) (hc : code ∈ codesOf rows) :
    Template.parseLocalized (some code) (variantsOf TableRow.template rows code) =
      .ok (messageOf rows code) := by
  have hvariants : Template.parseVariants (some code) (variantsOf TableRow.template rows code) =
      .ok (variantsOf (fun row => Template.said row.template) rows code) := by
    rw [Template.parseVariants_eq_ok_iff]
    refine ⟨?_, variantsOf_map TableRow.template Template.said⟩
    intro variant hv
    obtain ⟨row, hr, -, rfl⟩ := mem_variantsOf.1 hv
    exact h.said hr
  have hne : variantsOf (fun row => Template.said row.template) rows code ≠ [] :=
    variantsOf_ne_nil_iff.2 hc
  rw [Template.parseLocalized, hvariants]
  show Except.ok (Message.coded code (Template.ofVariants _)) = _
  rw [Template.ofVariants, if_neg (by simpa using hne), messageOf]

theorem compileGroups_map {codes : List String} {templates : String → List (Locale × String)}
    {message : String → Message}
    (h : ∀ code ∈ codes, Template.parseLocalized (some code) (templates code) =
      .ok (message code)) :
    compileGroups (codes.map fun code => (code, templates code)) =
      .ok (codes.map fun code => (code, message code)) := by
  induction codes with
  | nil => rfl
  | cons code codes ih =>
    have hrest := ih fun other ho => h other (List.mem_cons_of_mem code ho)
    rw [List.map_cons, compileGroups, h code List.mem_cons_self, hrest]
    rfl

/-- A table without repetition, whose templates can be read, is compiled. -/
theorem compile_of_nodup (hkeys : (rows.map TableRow.key).Nodup) (h : AllParse rows) :
    compile rows = .ok (bundleOf rows) := by
  have hgroups : compileGroups (groupsOf rows) =
      .ok ((codesOf rows).map fun code => (code, messageOf rows code)) :=
    compileGroups_map fun code hc => parseLocalized_variantsOf h hc
  simp only [compile, groupRows_of_nodup hkeys, hgroups, bundleOf]

/-- The first row that repeats a key is named, whatever stands behind it. -/
theorem compile_of_repeated {front : List TableRow} {row : TableRow}
    (hfront : (front.map TableRow.key).Nodup) (h : row.key ∈ front.map TableRow.key)
    (back : List TableRow) :
    compile (front ++ row :: back) = .error (.bundle (.duplicateLocale row.code row.locale)) := by
  simp only [compile, groupRows_of_repeated hfront h back]

/-- A group is compiled only if all its templates can be read. -/
theorem parse_of_compileGroups {groups : List CodeGroup} {messages : List (String × Message)}
    (h : compileGroups groups = .ok messages) :
    ∀ group ∈ groups, ∀ template ∈ group.2, ∃ message, Template.parse template.2 = .ok message := by
  induction groups generalizing messages with
  | nil =>
    intro group hg
    cases hg
  | cons group groups ih =>
    obtain ⟨code, templates⟩ := group
    rw [compileGroups] at h
    obtain ⟨message, hmessage, h⟩ := exists_of_bind_eq_ok h
    obtain ⟨rest, hrest, -⟩ := exists_of_bind_eq_ok h
    unfold Template.parseLocalized at hmessage
    obtain ⟨variants, hvariants, -⟩ := exists_of_map_eq_ok hmessage
    intro group hg template ht
    rcases List.mem_cons.1 hg with rfl | hg
    · exact ⟨_, (Template.parseVariants_eq_ok_iff.1 hvariants).1 template ht⟩
    · exact ih hrest group hg template ht

/-- A table is compiled exactly if no key repeats and all templates can be read. -/
theorem compile_eq_ok_iff {bundle : Bundle} :
    compile rows = .ok bundle ↔
      (rows.map TableRow.key).Nodup ∧ AllParse rows ∧ bundle = bundleOf rows := by
  constructor
  · intro h
    have hkeys : (rows.map TableRow.key).Nodup := by
      by_contra hrepeated
      obtain ⟨front, row, back, rfl, hfront, hold⟩ := exists_first_repeated hrepeated
      rw [compile_of_repeated hfront hold] at h
      cases h
    have hparse : AllParse rows := by
      intro row hr
      have hgroups := h
      simp only [compile, groupRows_of_nodup hkeys] at hgroups
      cases hg : compileGroups (groupsOf rows) with
      | error e =>
        rw [hg] at hgroups
        cases hgroups
      | ok messages =>
        have hcode : row.code ∈ codesOf rows := mem_codesOf.2 ⟨row, hr, rfl⟩
        exact parse_of_compileGroups hg _ (List.mem_map_of_mem hcode) (row.locale, row.template)
          (mem_variantsOf.2 ⟨row, hr, rfl, rfl⟩)
    refine ⟨hkeys, hparse, ?_⟩
    rw [compile_of_nodup hkeys hparse] at h
    exact (Except.ok.inj h).symm
  · rintro ⟨hkeys, hparse, rfl⟩
    exact compile_of_nodup hkeys hparse

/-! ### Rendering -/

/-- Both give the same text, or both fail to render with the same cause. -/
def SameOutcome : Except BundleFailure String → Except TemplateRenderError String → Prop
  | .ok text, .ok text' => text = text'
  | .error (.rendering e), .error (.rendering e') => e.cause = e'.cause
  | _, _ => False

/-- The row whose locale suits a request best among the rows of a code. -/
def rowFor (rows : List TableRow) (code : String) (request : Locale) : Option TableRow :=
  selectVariant (variantsOf id rows code) request

/-- What a bundle makes of a table. -/
structure Serves (bundle : Bundle) (rows : List TableRow) : Prop where
  /-- Its codes are the distinct ones, in the order in which they appear. -/
  codes : bundle.codes = (rows.map TableRow.code).eraseDups
  /-- A code is rendered like the template of the row that is selected for it. -/
  render : ∀ code ∈ bundle.codes, ∀ context parameters,
    ∃ row, rowFor rows code (context.localeFor parameters) = some row ∧
      SameOutcome (bundle.render context code parameters)
        (renderTemplate context row.template parameters)
  /-- Other codes are unknown. -/
  unknown : ∀ code, code ∉ bundle.codes → ∀ context parameters,
    bundle.render context code parameters = .error (.bundle (.unknownCode code))

theorem render_of_get? {bundle : Bundle} {message : Message} (h : bundle.get? code = some message) :
    bundle.render context code parameters =
      (Phrasebook.render context message parameters).mapError fun e =>
        .rendering (e.withCode code) := by
  rw [Bundle.render, Bundle.message, h]
  show (Except.ok message >>= _) = _
  cases hr : Phrasebook.render context message parameters <;>
    simp only [bind, Except.bind, hr] <;> rfl

theorem get?_bundleOf (hc : code ∈ codesOf rows) :
    (bundleOf rows).get? code = some (messageOf rows code) :=
  List.lookup_graph (messageOf rows) hc

section RowFor

variable {row : TableRow}

theorem mem_of_rowFor {request : Locale} (h : rowFor rows code request = some row) :
    row ∈ rows := by
  obtain ⟨locale, hl⟩ := mem_of_selectVariant h
  obtain ⟨other, ho, -, he⟩ := mem_variantsOf.1 hl
  obtain ⟨-, rfl⟩ := Prod.mk.inj he
  exact ho

/-- The variant that is selected is the message of the row that is selected. -/
theorem selectVariant_of_rowFor {request : Locale} (h : rowFor rows code request = some row) :
    selectVariant (variantsOf (fun row => Template.said row.template) rows code) request =
      some (Template.said row.template) := by
  have hvariants : variantsOf (fun row => Template.said row.template) rows code =
      (variantsOf id rows code).map fun variant =>
        (variant.1, Template.said variant.2.template) :=
    variantsOf_map id fun row => Template.said row.template
  have hmap := selectVariant_map (fun row : TableRow => Template.said row.template)
    (variantsOf id rows code) request
  rw [rowFor] at h
  rw [hvariants, hmap, h, Option.map_some]

theorem renderMessage_messageOf (h : rowFor rows code (context.localeFor parameters) = some row) :
    renderMessage context parameters (messageOf rows code) =
      ((renderMessage context parameters (Template.said row.template)).mapError
        (·.withLocale (context.localeFor parameters))).mapError (·.withCode code) := by
  rw [messageOf, renderMessage_coded, renderMessage_of_select (selectVariant_of_rowFor h)]

/-- Codes, locales and templates that errors learn on the way out leave their cause alone. -/
theorem sameOutcome_of_rowFor (h : AllParse rows) (hc : code ∈ codesOf rows)
    (hrow : rowFor rows code (context.localeFor parameters) = some row) :
    SameOutcome ((bundleOf rows).render context code parameters)
      (renderTemplate context row.template parameters) := by
  have hrender := renderMessage_messageOf hrow
  rw [render_of_get? (get?_bundleOf hc), renderTemplate_of_parse (h.said (mem_of_rowFor hrow)),
    Phrasebook.render, Phrasebook.render, hrender]
  cases renderMessage context parameters (Template.said row.template) with
  | ok fragment => rfl
  | error e => rfl

end RowFor

theorem serves_bundleOf (h : AllParse rows) : (bundleOf rows).Serves rows := by
  refine ⟨codes_bundleOf rows, ?_, ?_⟩
  · intro code hc context parameters
    rw [codes_bundleOf] at hc
    obtain ⟨row, hrow⟩ : ∃ row, rowFor rows code (context.localeFor parameters) = some row :=
      exists_selectVariant (variantsOf_ne_nil_iff.2 hc)
    exact ⟨row, hrow, sameOutcome_of_rowFor h hc hrow⟩
  · intro code hc context parameters
    rw [Bundle.render, message, get?_eq_none_iff.2 hc]
    rfl

/-! ### Packing -/

/-- Rows as programs make them: locales are read from tags, and texts fit into memory. -/
structure Made (rows : List TableRow) : Prop where
  /-- The rows can be counted. -/
  count : rows.length < countLimit
  /-- Locales are read from tags. -/
  locales : ∀ row ∈ rows, ∃ tag, Locale.parse tag = .ok row.locale
  /-- Codes and templates fit. -/
  texts : ∀ row ∈ rows, FitsLength row.code ∧ FitsLength row.template

theorem allSound_messageOf (h : AllParse rows) (hmade : Made rows) (hc : code ∈ codesOf rows) :
    (messageOf rows code).AllSound QuotedText.Faithful Locale.Readable := by
  refine ⟨?_, List.forall_mem_singleton.2 ⟨⟨?_, ?_⟩, ?_⟩⟩
  · obtain ⟨row, hr, rfl⟩ := mem_codesOf.1 hc
    exact (hmade.texts row hr).1
  · exact Nat.lt_of_le_of_lt length_variantsOf_le hmade.count
  · intro variant hv
    obtain ⟨row, hr, -, rfl⟩ := mem_variantsOf.1 hv
    obtain ⟨tag, htag⟩ := hmade.locales row hr
    exact Locale.fits_of_parse htag
  · intro inner hi
    obtain ⟨variant, hv, rfl⟩ := List.mem_map.1 hi
    obtain ⟨row, hr, -, rfl⟩ := mem_variantsOf.1 hv
    exact Template.sound_of_parse (hmade.texts row hr).2 (h.said hr)

theorem own_bundleOf (rows : List TableRow) : (bundleOf rows).Own := by
  intro entry he
  obtain ⟨code, -, rfl⟩ := List.mem_map.1 he
  rfl

/-- The pack of the bundle is unpacked as the bundle. -/
theorem unpack_pack_bundleOf (h : AllParse rows) (hmade : Made rows) :
    unpack ((bundleOf rows).pack false) = .ok (bundleOf rows) := by
  have hmessages : (bundleOf rows).messages.map Prod.snd = (codesOf rows).map (messageOf rows) := by
    rw [bundleOf, List.map_map]
    rfl
  have hunpack : unpackMessages (packMessages false ((codesOf rows).map (messageOf rows))) =
      .ok ((codesOf rows).map (messageOf rows)) := by
    apply unpackMessages_packMessages_of_packable
    · rw [List.length_map]
      exact Nat.lt_of_le_of_lt (length_codesOf_le rows) hmade.count
    · intro message hm
      obtain ⟨code, hc, rfl⟩ := List.mem_map.1 hm
      exact allSound_messageOf h hmade hc
    · intro message hm
      obtain ⟨code, hc, rfl⟩ := List.mem_map.1 hm
      exact Template.packable_of_parseLocalized (parseLocalized_variantsOf h hc)
  have hbundle : ofMessages ((codesOf rows).map (messageOf rows)) = .ok (bundleOf rows) := by
    apply ofMessages_eq_ok_iff.2
    refine ⟨hmessages, own_bundleOf rows, ?_⟩
    rw [codes_bundleOf]
    exact nodup_codesOf rows
  simp only [unpack, pack, hmessages, hunpack, hbundle]

end Bundle

/-! ### Pools -/

namespace Pool

theorem says_compileGroups (groups : List Bundle.CodeGroup) :
    Says id (Bundle.compileGroups groups) (compileGroups groups) := by
  induction groups with
  | nil => exact says_pure []
  | cons group groups ih =>
    obtain ⟨code, templates⟩ := group
    unfold Bundle.compileGroups compileGroups
    apply (says_parseLocalized (some code) templates).bind
    intro shared _
    apply ih.bind
    intro messages _
    exact says_pure _

/-- A table is compiled with a pool as without. -/
theorem says_compile (rows : List TableRow) : Says id (Bundle.compile rows) (compile rows) := by
  have hcompile : Bundle.compile rows =
      ((Bundle.groupRows rows).mapError BundleFailure.bundle >>= fun groups =>
        (Bundle.compileGroups groups).mapError BundleFailure.template >>= fun messages =>
          .ok ⟨messages⟩) := by
    rw [Bundle.compile]
    cases Bundle.groupRows rows with
    | error e => rfl
    | ok groups =>
      show _ = ((Bundle.compileGroups groups).mapError BundleFailure.template >>= _)
      cases hg : Bundle.compileGroups groups <;> simp only [hg] <;> rfl
  rw [hcompile]
  unfold compile
  apply (says_lift _).bind
  intro groups _
  apply ((says_compileGroups groups).adapt BundleFailure.template).bind
  intro messages _
  exact says_pure _

/-- Whatever a pool was used for, a table is compiled with it as without. -/
theorem compile_after (policy : PoolPolicy) (calls : List PoolCall) (rows : List TableRow) :
    ((compile rows).run.run (after policy calls)).1 = Bundle.compile rows := by
  have hread := (says_compile rows _ (faithful_after policy calls)).1
  rw [← hread]
  cases ((compile rows).run.run (after policy calls)).1 <;> rfl

end Pool

/-! ### Tables -/

namespace Bundle

/-- A table is compiled alike whatever its messages are shared with. If a key repeats, the first row
    that repeats one is named. Otherwise, if its templates can be read, the bundle renders every
    code like the template of the row that is selected for it, and so does the bundle that is
    unpacked again. -/
theorem serves_of_compile (policy : PoolPolicy) (calls : List PoolCall) (rows : List TableRow) :
    let compiled := ((Pool.compile rows).run.run (Pool.after policy calls)).1
    compiled = compile rows ∧
    (¬ (rows.map TableRow.key).Nodup →
      ∃ front row back, rows = front ++ row :: back ∧ (front.map TableRow.key).Nodup ∧
        row.key ∈ front.map TableRow.key ∧
        compiled = .error (.bundle (.duplicateLocale row.code row.locale))) ∧
    ((rows.map TableRow.key).Nodup → AllParse rows →
      ∃ bundle, compiled = .ok bundle ∧ bundle.Serves rows ∧
        (Made rows → ∃ unpacked, unpack (bundle.pack false) = .ok unpacked ∧
          unpacked.codes = bundle.codes ∧ unpacked.Serves rows)) := by
  intro compiled
  have hcompiled : compiled = compile rows := Pool.compile_after policy calls rows
  refine ⟨hcompiled, ?_, ?_⟩
  · intro hrepeated
    obtain ⟨front, row, back, rfl, hfront, hold⟩ := exists_first_repeated hrepeated
    refine ⟨front, row, back, rfl, hfront, hold, ?_⟩
    rw [hcompiled, compile_of_repeated hfront hold]
  · intro hkeys hparse
    have hserves := serves_bundleOf hparse
    refine ⟨bundleOf rows, ?_, hserves, ?_⟩
    · rw [hcompiled, compile_of_nodup hkeys hparse]
    · intro hmade
      exact ⟨bundleOf rows, unpack_pack_bundleOf hparse hmade, rfl, hserves⟩

/-- Rows of two codes that take turns, and a row that comes back. -/
theorem serves_of_compile_turns :
    let rows : List TableRow := [⟨"A", .root, "a"⟩, ⟨"B", .root, "b"⟩, ⟨"A", ⟨"de", none⟩, "b"⟩]
    let again : List TableRow := [⟨"A", .root, "a"⟩, ⟨"B", .root, "b"⟩, ⟨"A", .root, "b"⟩]
    (∃ bundle, compile rows = .ok bundle ∧ bundle.Serves rows ∧
      ∃ unpacked, unpack (bundle.pack false) = .ok unpacked ∧ unpacked.Serves rows) ∧
    ∃ front row back, again = front ++ row :: back ∧ row.key ∈ front.map TableRow.key ∧
      compile again = .error (.bundle (.duplicateLocale row.code row.locale)) := by
  intro rows again
  have hparse : AllParse rows := by
    have hletter (c : Char) (hstep : scanStep 1 .text [c] =
        .ok (some ⟨[⟨.text false false, 0, 1, String.ofList [c]⟩], .text, []⟩)) :
        ∃ message, Template.parse (String.ofList [c]) = .ok message := by
      let tree : TemplateTree :=
        ⟨[.text ⟨.text false false, 0, 1, String.ofList [c]⟩ false false rfl],
          ⟨⟨.eof, 1, 1, ""⟩, rfl⟩⟩
      have htokens : tokenize (String.ofList [c]) = .ok tree.tokens := by
        rw [tokenize, String.length_ofList, String.toList_ofList]
        exact scanTokens_of_step _ hstep (scanTokens_of_end rfl)
      have hd : tree.Distinct := by
        simp [tree, TemplateTree.Distinct, ItemTree.Distinct]
      exact ⟨_, Template.parse_eq_ok_iff.2 (Template.parse?_eq_ok_iff.2 ⟨tree, htokens, hd, rfl⟩)⟩
    have ha := hletter 'a' (by cbv)
    have hb := hletter 'b' (by cbv)
    intro row hr
    simp only [rows, List.mem_cons, List.not_mem_nil, or_false] at hr
    rcases hr with rfl | rfl | rfl
    · exact ha
    · exact hb
    · exact hb
  have hmade : Made rows := by
    have hroot : Locale.parse "" = .ok .root := rfl
    have hde : Locale.parse "de" = .ok ⟨"de", none⟩ := rfl
    refine ⟨by decide, ?_, ?_⟩
    · simp only [rows, List.forall_mem_cons, List.not_mem_nil, false_imp_iff, implies_true, and_true]
      exact ⟨⟨"", hroot⟩, ⟨"", hroot⟩, ⟨"de", hde⟩⟩
    · simp only [rows, List.forall_mem_cons, List.not_mem_nil, false_imp_iff, implies_true, and_true]
      decide
  obtain ⟨hrows, -, hserves⟩ := serves_of_compile .none [] rows
  obtain ⟨hagain, hrepeated, -⟩ := serves_of_compile .unbounded [] again
  constructor
  · obtain ⟨bundle, hbundle, hserved, hpack⟩ := hserves (by decide) hparse
    obtain ⟨unpacked, hunpacked, -, hunpackedServed⟩ := hpack hmade
    exact ⟨bundle, hrows.symm.trans hbundle, hserved, unpacked, hunpacked, hunpackedServed⟩
  · obtain ⟨front, row, back, hagain', -, hold, herror⟩ := hrepeated (by decide)
    exact ⟨front, row, back, hagain', hold, hagain.symm.trans herror⟩

end Bundle

end Phrasebook
