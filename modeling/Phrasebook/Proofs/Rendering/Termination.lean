import Phrasebook.Proofs.Rendering.Message
import Phrasebook.Proofs.Rendering.Redispatch
import Phrasebook.Proofs.Template.Names
import Phrasebook.Proofs.Template.Parsing

/-! # Rendering ends

    Whatever the message, the values of its parameters and the declared types are, rendering with the
    built-in formatters ends, and so does collecting names. Three facts carry this.

    * The template in a setting is shorter than the one that it stands in.
    * A formatter goes back to formatters only with a smaller value, or with one of the same size
      after it spent its format (`formatStep_congr`).
    * So calls are no deeper than the rank of the message and the sizes of values allow. -/

namespace Phrasebook

/-! ### Results of bounded calls -/

namespace Bounded

variable {α β : Type}

theorem map_done (f : α → β) (result : Except RenderError α) :
    f <$> done result = done (result.map f) := by
  cases result <;> rfl

theorem bind_done (result : Except RenderError α) (next : α → Except RenderError β) :
    (done result >>= fun a => done (next a)) = done (result >>= next) := by
  cases result <;> rfl

theorem adapt_done (f : RenderError → RenderError) (result : Except RenderError α) :
    ExceptT.adapt f (done result) = done (result.mapError f) := by
  cases result <;> rfl

theorem mapM_done (xs : List α) (f : α → Except RenderError β) :
    xs.mapM (fun x => done (f x)) = done (xs.mapM f) := by
  induction xs with
  | nil => rfl
  | cons x xs ih =>
    rw [List.mapM_cons, List.mapM_cons, ih, ← bind_done]
    congr 1
    funext b
    rw [← bind_done]
    rfl

end Bounded

theorem mapM_attach {m : Type → Type} [Monad m] [LawfulMonad m] {α β : Type} (xs : List α)
    (f : α → m β) : xs.attach.mapM (fun x => f x.1) = xs.mapM f := by
  rw [List.mapM_subtype fun _ _ => rfl, List.unattach_attach]

/-! ### Formatting ends -/

section Format

variable {call : FormatCall} {nested : NestedRenderer call.settings}
  {nested' : SettingValue → Bounded Fragment}

theorem selectStep_done {value : Value} {kinds : List KeyKind} {otherwise : Bool}
    {alternative : Except RenderError Fragment}
    (hn : ∀ v (hv : v ∈ call.settings.values), nested' v = .done (nested v hv)) :
    selectStep call nested' value kinds otherwise (.done alternative) =
      .done (call.selectOr nested value kinds otherwise alternative) := by
  unfold selectStep FormatCall.selectOr
  split
  · rename_i chosen hc
    split
    · rename_i other ho
      obtain rfl := Option.some.inj (hc.symm.trans ho)
      exact hn chosen _
    · rename_i hnone
      cases hc.symm.trans hnone
  · rename_i hnone
    split
    · rename_i other ho
      cases ho.symm.trans hnone
    · rfl

theorem textStep_done (null : String) (value : Value) :
    textStep (fun format value => .done (formatValue call nested format value)) null value =
      .done (textOr null value (formatValue call nested none value)) := by
  unfold textStep textOr
  split
  · rfl
  · exact Bounded.map_done _ _

theorem entryStep_done :
    entryStep call (fun format value => .done (formatValue call nested format value)) =
      fun entry => .done (entryItem ((call.settingText? "map-kv-sep").getD "=")
        (textOr ((call.settingText? "map-null-key").getD "(null)") entry.1
          (formatValue call nested none entry.1))
        (textOr ((call.settingText? "map-null-value").getD "(null)") entry.2
          (formatValue call nested none entry.2))) := by
  funext entry
  unfold entryStep entryItem
  rw [textStep_done, textStep_done, ← Bounded.bind_done]
  congr 1
  funext key
  rw [← Bounded.bind_done]
  rfl

/-- Where formatters go back to formatting, formatting is what they do. -/
theorem formatStep_done (hb : call.context.registry.AllBuiltin)
    (ht : call.context.registry.Typed)
    (hn : ∀ v (hv : v ∈ call.settings.values), nested' v = .done (nested v hv))
    (format : Option String) (value : Value) :
    formatStep call nested' (fun format value => .done (formatValue call nested format value))
        format value =
      .done (formatValue call nested format value) := by
  have hselect {v : Value} {kinds : List KeyKind} {otherwise : Bool}
      {alternative : Bounded Fragment} {alternative' : Except RenderError Fragment}
      (ha : alternative = .done alternative') :
      selectStep call nested' v kinds otherwise alternative =
        .done (call.selectOr nested v kinds otherwise alternative') := by
    rw [ha]
    exact selectStep_done hn
  obtain ⟨kind, hk⟩ := hb.resolve format value.typeName
  unfold formatStep
  rw [formatValue.eq_def, hk]
  cases kind with
  | string =>
    refine hselect ?_
    split
    · rfl
    · exact hselect rfl
  | number => exact hselect (hselect rfl)
  | bool =>
    refine hselect ?_
    cases truth? value with
    | none => rfl
    | some flag => exact hselect rfl
  | choice => exact hselect rfl
  | size =>
    -- only a format asks for it, and no format goes along with the size
    obtain ⟨name, rfl⟩ := Option.isSome_iff_exists.1 (ht.isSome_of_resolve hk rfl)
    exact hselect rfl
  | clip =>
    obtain ⟨name, rfl⟩ := Option.isSome_iff_exists.1 (ht.isSome_of_resolve hk rfl)
    refine hselect ?_
    split
    · rfl
    · exact Bounded.map_done _ _
  | list =>
    refine hselect ?_
    cases value with
    | list values =>
      dsimp only
      rw [Bounded.mapM_done, ← Bounded.bind_done, mapM_attach values (formatValue call nested none)]
      rfl
    | _ => rfl
  | map =>
    refine hselect ?_
    cases value with
    | map entries =>
      dsimp only
      rw [entryStep_done, Bounded.mapM_done, ← mapM_attach]
      exact Bounded.map_done call.listStyle.join _
    | _ => rfl
  | optional =>
    refine hselect ?_
    cases value with
    | optional value => cases value <;> rfl
    | _ => rfl
  | supplier => cases value <;> rfl

end Format

section Render

variable {context : Context} {parameters : Parameters}

/-- Calls that are deep enough for the messages in the settings, and for the value and its format
    besides, format the value. -/
theorem formatWithin_done (hb : context.registry.AllBuiltin) (ht : context.registry.Typed)
    {settings : Settings SettingValue} {enough : Nat}
    (hn : ∀ v ∈ settings.values, ∀ depth, enough ≤ depth →
      nestedStep (renderWithin context parameters depth) v =
        .done (renderNested context parameters v))
    (depth : Nat) (format : Option String) (value : Value)
    (hd : enough + 2 * value.size + pendingFormat format ≤ depth) :
    formatWithin context parameters depth settings format value =
      .done (formatValue ⟨context, parameters, settings⟩
        (fun v _ => renderNested context parameters v) format value) := by
  induction depth generalizing format value with
  | zero =>
    have := value.size_pos
    omega
  | succ depth ih =>
    have hpos := value.size_pos
    let call : FormatCall := ⟨context, parameters, settings⟩
    have hfix := @formatStep_done call (fun v _ => renderNested context parameters v)
      (fun v => .done (renderNested context parameters v)) hb ht (fun v _ => rfl) format value
    rw [formatWithin, ← hfix]
    refine formatStep_congr hb ht (fun v hv => hn v hv depth (by omega)) ?_
    intro format' value' hless
    have := hless.lt
    exact ih format' value' (by omega)

/-- How deep calls are at most, by the rank of a message and the greatest size of a value. -/
def depthBound (rank size : Nat) : Nat := 1 + rank * (2 * size + 2)

theorem depthBound_mono {rank rank' : Nat} (size : Nat) (h : rank ≤ rank') :
    depthBound rank size ≤ depthBound rank' size :=
  Nat.add_le_add_left (Nat.mul_le_mul_right _ h) 1

theorem depthBound_succ (rank size : Nat) :
    depthBound (rank + 1) size = depthBound rank size + (2 * size + 2) := by
  unfold depthBound
  rw [Nat.succ_mul, Nat.add_assoc]

/-- What is behind a message of lower rank leaves room for formatting a value. -/
theorem depthBound_add_le {rank rank' : Nat} (size : Nat) (h : rank < rank') :
    depthBound rank size + (2 * size + 2) ≤ depthBound rank' size := by
  rw [← depthBound_succ]
  exact depthBound_mono size h

theorem Message.rank_pos_of_mem {message : Message} {place : Placeholder}
    (h : .placeholder place ∈ message.parts) : 0 < message.rank := by
  have hplace : 0 < (Part.placeholder place).rank := by
    rw [Part.rank, Placeholder.rank_eq]
    exact Nat.succ_pos _
  cases message with
  | single part =>
    obtain rfl := List.mem_singleton.1 h
    exact hplace
  | multiple parts => exact Nat.lt_of_lt_of_le hplace (Part.rank_le_rankAll h)
  | empty | localized _ | coded _ _ => exact absurd h List.not_mem_nil

theorem placeholderStep_done {place : Placeholder}
    {format : Settings SettingValue → ValueFormatter}
    (h : ∀ value, context.valueOf parameters place.name = .ok value →
      format place.settings place.format value =
        .done (formatValue ⟨context, parameters, place.settings⟩
          (fun v _ => renderNested context parameters v) place.format value)) :
    placeholderStep context parameters format place =
      .done (renderPlaceholder context parameters place
        fun v _ => renderNested context parameters v) := by
  unfold placeholderStep renderPlaceholder
  cases hvalue : context.valueOf parameters place.name with
  | error e => rfl
  | ok value =>
    have hbind (next : Value → Bounded Fragment) :
        (Bounded.done (.ok value) >>= next) = next value := rfl
    have hok (next : Value → Except RenderError Fragment) :
        (Except.ok value >>= next) = next value := rfl
    rw [hbind, hok, h value hvalue]
    cases formatValue ⟨context, parameters, place.settings⟩
      (fun v _ => renderNested context parameters v) place.format value <;> rfl

/-- A part is rendered, by calls deep enough for the messages in its settings. -/
theorem partStep_done (hb : context.registry.AllBuiltin) (ht : context.registry.Typed)
    {message : Message} {part : Part} (hp : part ∈ message.parts) {depth : Nat}
    (hd : depthBound message.rank parameters.size ≤ depth + 1)
    (ih : ∀ inner : Message, inner.rank < message.rank → ∀ depth,
      depthBound inner.rank parameters.size ≤ depth →
        renderWithin context parameters depth inner =
          .done (renderMessage context parameters inner)) :
    partStep context parameters (formatWithin context parameters depth) part =
      .done (renderPart context parameters part) := by
  cases part with
  | literal text => rfl
  | placeholder place =>
    -- whatever the settings are read as ranks lower, so the same depth is enough for all of it
    have hroom := depthBound_add_le parameters.size
      (Nat.sub_lt (Message.rank_pos_of_mem hp) Nat.one_pos)
    have hnested : ∀ v ∈ place.settings.values, ∀ depth,
        depthBound (message.rank - 1) parameters.size ≤ depth →
          nestedStep (renderWithin context parameters depth) v =
            .done (renderNested context parameters v) := by
      intro v hv depth hdepth
      unfold nestedStep renderNested
      cases hread : v.toMessage with
      | error e => rfl
      | ok inner =>
        have hrank := Nat.lt_of_le_of_lt (SettingValue.rank_le_of_toMessage hread)
          (SettingValue.rank_lt_of_mem hp hv)
        exact ih inner hrank depth
          (Nat.le_trans (depthBound_mono _ (Nat.le_sub_one_of_lt hrank)) hdepth)
    have hformat (value : Value) (hvalue : value.size ≤ parameters.size) :
        formatWithin context parameters depth place.settings place.format value =
          .done (formatValue ⟨context, parameters, place.settings⟩
            (fun v _ => renderNested context parameters v) place.format value) := by
      have hpending : pendingFormat place.format ≤ 1 := by
        unfold pendingFormat
        split <;> omega
      exact formatWithin_done hb ht hnested depth place.format value (by omega)
    exact placeholderStep_done fun value hvalue => hformat value (Context.size_le_of_valueOf hvalue)

/-- Calls as deep as the rank of the message and the sizes of the values allow render it. -/
theorem renderWithin_done (hb : context.registry.AllBuiltin) (ht : context.registry.Typed)
    (message : Message) (depth : Nat) (hd : depthBound message.rank parameters.size ≤ depth) :
    renderWithin context parameters depth message =
      .done (renderMessage context parameters message) := by
  induction hn : message.rank using Nat.strongRecOn generalizing message depth with
  | ind n ih =>
    subst hn
    obtain ⟨depth, rfl⟩ : ∃ less, depth = less + 1 := ⟨depth - 1, by unfold depthBound at hd; omega⟩
    -- one call less is enough for a message of lower rank
    have hinner (inner : Message) (h : inner.rank < message.rank) :
        renderWithin context parameters depth inner =
          .done (renderMessage context parameters inner) := by
      have := depthBound_add_le parameters.size h
      exact ih inner.rank h inner depth (by omega) rfl
    cases message using Message.cases_rendering with
    | localized variants =>
      rw [renderWithin]
      cases hs : selectVariant variants (context.localeFor parameters) with
      | none => rw [renderMessage_of_select_none hs]
      | some variant =>
        obtain ⟨locale, hv⟩ := mem_of_selectVariant hs
        rw [renderMessage_of_select hs]
        dsimp only
        rw [hinner variant (Message.rank_lt_of_mem_localized hv), Bounded.adapt_done]
    | coded code inner =>
      rw [renderWithin, hinner inner (Message.rank_lt_coded code inner), Bounded.adapt_done,
        renderMessage_coded]
    | parts message hl hc =>
      have hparts : message.parts.mapM
          (partStep context parameters (formatWithin context parameters depth)) =
            .done (message.parts.mapM (renderPart context parameters)) := by
        rw [← Bounded.mapM_done]
        refine mapM_congr fun part hp => ?_
        exact partStep_done hb ht hp hd fun inner h depth hdepth => ih _ h inner depth hdepth rfl
      rw [renderMessage_parts hl hc, renderWithin, hparts, Bounded.map_done]
      · exact fun variants h => hl variants h
      · exact fun code inner h => hc code inner h

end Render

/-! ### Collecting names ends -/

theorem mapM_some {α β : Type} {xs : List α} {f : α → Option β} {g : α → β}
    (h : ∀ x ∈ xs, f x = some (g x)) : xs.mapM f = some (xs.map g) := by
  rw [mapM_congr h]
  exact List.mapM_pure

/-- Calls as deep as the rank of the message collect the names that it mentions. -/
theorem mentionedWithin_eq (message : Message) (depth : Nat) (hd : message.rank < depth) :
    mentionedWithin depth message = some message.mentioned := by
  induction depth generalizing message with
  | zero => omega
  | succ depth ih =>
    cases message using Message.cases_rendering with
    | localized variants =>
      have hvariants : variants.mapM (fun variant => mentionedWithin depth variant.2) =
          some (variants.map fun variant => variant.2.mentioned) :=
        mapM_some fun variant hv => by
          obtain ⟨locale, inner⟩ := variant
          have := Message.rank_lt_of_mem_localized hv
          exact ih inner (by omega)
      rw [mentionedWithin, hvariants, Message.mentioned_variants, List.flatMap_def]
      rfl
    | coded code inner =>
      have := Message.rank_lt_coded code inner
      rw [mentionedWithin, ih inner (by omega), Message.mentioned_coded]
    | parts message hl hc =>
      have hpart : ∀ part ∈ message.parts,
          partNamesStep (mentionedWithin depth) part = some part.mentioned := by
        intro part hp
        cases part with
        | literal text => rfl
        | placeholder place =>
          have hvalues : place.settings.values.mapM (valueNamesStep (mentionedWithin depth)) =
              some (place.settings.values.map SettingValue.mentioned) :=
            mapM_some fun value hv => by
              unfold valueNamesStep SettingValue.mentioned
              cases hread : value.toMessage with
              | error e => rfl
              | ok inner =>
                have := SettingValue.rank_le_of_toMessage hread
                have := SettingValue.rank_lt_of_mem hp hv
                exact ih inner (by omega)
          rw [partNamesStep, hvalues, Part.mentioned, List.flatMap_def]
          rfl
      rw [Message.mentioned_parts hl hc, List.flatMap_def, mentionedWithin, mapM_some hpart]
      · rfl
      · exact fun variants h => hl variants h
      · exact fun code inner h => hc code inner h

/-! ### Templates in templates -/

/-- A string in the settings of a template is shorter than the template. -/
theorem Template.length_quoted_lt {source : String} {message : Message}
    (h : parse source = .ok message) {place : Placeholder}
    (hp : .placeholder place ∈ message.parts) {quoted : QuotedText} (hq : quoted ∈ place.quoted) :
    quoted.source.length < source.length := by
  obtain ⟨value, hv, hquoted⟩ := List.mem_filterMap.1 hq
  have hvalue : value = .string quoted := by
    cases value with
    | string other => exact congrArg SettingValue.string (Option.some.inj hquoted)
    | bool _ | number _ | message _ => cases hquoted
  subst hvalue
  have hlt := SettingValue.rank_lt_of_mem hp hv
  have hle := rank_le_of_parse h
  rw [SettingValue.rank] at hlt
  omega

/-! ### Rendering ends -/

/-- With the built-in formatters and any declared types, calls of bounded depth render every message
    and collect its names. Nested templates are shorter than those that they stand in, and between
    two of them the size of the value, or else the pending format, decreases. -/
theorem rendering_ends (context : Context)
    (declarations : List (String × Option String × List String))
    (hc : context.registry = .withTypes declarations) :
    (∀ message parameters depth, depthBound message.rank parameters.size ≤ depth →
      renderWithin context parameters depth message =
        .done (renderMessage context parameters message)) ∧
    (∀ message depth, message.rank < depth →
      mentionedWithin depth message = some message.mentioned) ∧
    (∀ source message place quoted, Template.parse source = .ok message →
      .placeholder place ∈ message.parts → quoted ∈ place.quoted →
        quoted.source.length < source.length) ∧
    (∀ parameters settings nested self self' format value,
      (∀ format' value', Redispatches format value format' value' →
        self format' value' = self' format' value') →
      formatStep ⟨context, parameters, settings⟩ nested self format value =
        formatStep ⟨context, parameters, settings⟩ nested self' format value) := by
  have hb : context.registry.AllBuiltin := hc ▸ Registry.allBuiltin_withTypes declarations
  have ht : context.registry.Typed := hc ▸ Registry.typed_withTypes declarations
  refine ⟨fun message _ depth hd => renderWithin_done hb ht message depth hd, mentionedWithin_eq,
    fun _ _ _ _ hparse hp hq => Template.length_quoted_lt hparse hp hq, ?_⟩
  intro parameters settings nested self self' format value hs
  let call : FormatCall := ⟨context, parameters, settings⟩
  exact (formatStep_congr hb ht (fun _ _ => rfl) hs :
    formatStep call nested self format value = formatStep call nested self' format value)

/-- A word for every value is a template in a template. -/
theorem parse_wordOtherwise : Template.parse "%\x7bn,:a\x7d" = .ok (.single (.placeholder
    ⟨"n", none, ⟨[], some (.string ⟨"a", "a"⟩)⟩, false, false⟩)) := by
  let entry : EntryTree :=
    .otherwise ⟨⟨.colon, 4, 5, ":"⟩, rfl⟩ (.word ⟨.name, 5, 6, "a"⟩ (.inl rfl))
  let tree : TemplateTree :=
    ⟨[.place ⟨⟨⟨.placeholderStart, 0, 2, "%\x7b"⟩, rfl⟩, ⟨.name, 2, 3, "n"⟩,
        .settings ⟨⟨.comma, 3, 4, ","⟩, rfl⟩ (.plain (.last entry)),
        ⟨⟨.placeholderEnd, 6, 7, "\x7d"⟩, rfl⟩, .inl (.inl rfl)⟩], ⟨⟨.eof, 7, 7, ""⟩, rfl⟩⟩
  have htokens : tokenize "%\x7bn,:a\x7d" = .ok tree.tokens := by
    show scanTokens 7 .text ['%', '{', 'n', ',', ':', 'a', '}'] = _
    let inside := ScanMode.placeholder 0 0
    refine scanTokens_of_step ⟨[_], inside, ['n', ',', ':', 'a', '}']⟩ rfl ?_
    refine scanTokens_of_step ⟨[_], inside, [',', ':', 'a', '}']⟩ rfl ?_
    refine scanTokens_of_step ⟨[_], inside, [':', 'a', '}']⟩ rfl ?_
    refine scanTokens_of_step ⟨[_], inside, ['a', '}']⟩ rfl ?_
    refine scanTokens_of_step ⟨[_], inside, ['}']⟩ rfl ?_
    exact scanTokens_of_step ⟨[_], .text, []⟩ rfl (scanTokens_of_end rfl)
  have hd : tree.Distinct := by
    intro item hi
    obtain rfl := List.mem_singleton.1 hi
    intro settings hs
    obtain rfl := Option.some.inj hs
    exact ⟨by decide, Nat.le_refl 1⟩
  exact Template.parse_eq_ok_iff.2 (Template.parse?_eq_ok_iff.2 ⟨tree, htokens, hd, rfl⟩)

/-- A word in a template, rendered for a list in a list, with a type that is a list and a map; and
    the formatter `clip`, which needs to know how less than the list is formatted. -/
theorem rendering_ends_nested :
    let context : Context := { registry := .withTypes [("shape", some "list", ["map"])] }
    let value : Value := .list [.list [.object "shape" "o"]]
    let parameters : Parameters := { values := [("n", value)] }
    let place : Placeholder := ⟨"n", none, ⟨[], some (.string ⟨"a", "a"⟩)⟩, false, false⟩
    let message : Message := .single (.placeholder place)
    Template.parse "%\x7bn,:a\x7d" = .ok message ∧
      renderWithin context parameters 17 message =
        .done (renderMessage context parameters message) ∧
      mentionedWithin 3 message = some message.mentioned ∧
      "a".length < "%\x7bn,:a\x7d".length ∧
      ∀ nested self,
        formatStep ⟨context, parameters, place.settings⟩ nested self (some "clip") value =
          formatStep ⟨context, parameters, place.settings⟩ nested
            (fun format' value' =>
              if 2 * value'.size + pendingFormat format' < 7 then self format' value' else .tooDeep)
            (some "clip") value := by
  intro context value parameters place message
  obtain ⟨hrender, hnames, hshorter, hstep⟩ :=
    rendering_ends context [("shape", some "list", ["map"])] rfl
  have hshort := hshorter _ _ place ⟨"a", "a"⟩ parse_wordOtherwise (List.mem_singleton_self _)
    (List.mem_singleton_self _)
  refine ⟨parse_wordOtherwise, hrender _ _ _ (by decide), hnames _ _ (by decide), hshort, ?_⟩
  intro nested self
  refine hstep parameters place.settings nested self _ (some "clip") value fun format' value' h => ?_
  have hless : 2 * value'.size + pendingFormat format' < 7 := h.lt
  rw [if_pos hless]

end Phrasebook
