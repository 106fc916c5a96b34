import Phrasebook.Proofs.Formatter.Resolution
import Phrasebook.Proofs.Rendering.Course
import Phrasebook.Proofs.Rendering.Parameters
import Phrasebook.Proofs.Rendering.Selection
import Phrasebook.Proofs.Template.Parsing
import Phrasebook.Proofs.Text.Collation

/-! # Suppliers and what they supply

    The formatter of suppliers hands over to that of the supplied value, with the format that is
    asked for. But a format that names a formatter is not looked up by type: its formatter has the
    supplier itself before it. To keys, a supplier is a value of a type of its own that has nothing
    but the text of what it supplies (`matchKey_supplier`), and it has no size. A format sees through
    suppliers (`FormatCall.SeesThrough`) if it names no formatter, or if these differences do not
    show. That is exactly where suppliers are formatted like what they supply
    (`formatValue_supplier_iff`), and a message is rendered alike if the placeholders are that
    rendering comes to (`renderMessage_insert_supplier`). -/

namespace Phrasebook

/-! ### Formatters by name and by type -/

/-- A format that is no name of a formatter that is built in. -/
def Builtin.Unnamed (format : Option String) : Prop :=
  ∀ kind : Builtin, ∀ name, kind.name? = some name → format ≠ some name

theorem Builtin.unnamed_none : Builtin.Unnamed none := by
  intro kind name _ h
  cases h

namespace Registry

variable (declarations : List (String × Option String × List String))

/-- Declarations of types leave the formatters as they are. -/
theorem formatters_withTypes :
    (withTypes declarations).named = standard.named ∧
      (withTypes declarations).typed = standard.typed :=
  withTypes_induction (motive := fun registry =>
    registry.named = standard.named ∧ registry.typed = standard.typed) ⟨rfl, rfl⟩
    (fun _ _ _ _ h => h) declarations

theorem named_standard : standard.named =
    [("clip", .builtin .clip), ("size", .builtin .size), ("choice", .builtin .choice),
      ("bool", .builtin .bool)] := by
  rfl

/-- Formatters are found by their names, and by nothing else. -/
theorem named?_withTypes_iff {name : String} {formatter : Formatter} :
    (withTypes declarations).named? name = some formatter ↔
      ∃ kind : Builtin, kind.name? = some name ∧ formatter = .builtin kind := by
  rw [named?, (formatters_withTypes declarations).1, named_standard]
  constructor
  · intro h
    have hmem := mem_of_lookup h
    simp only [List.mem_cons, Prod.mk.injEq, List.not_mem_nil, or_false] at hmem
    rcases hmem with ⟨rfl, rfl⟩ | ⟨rfl, rfl⟩ | ⟨rfl, rfl⟩ | ⟨rfl, rfl⟩ <;> exact ⟨_, rfl, rfl⟩
  · intro h
    obtain ⟨kind, hname, rfl⟩ := h
    cases kind <;> cases hname <;> rfl

theorem resolve_of_name? {kind : Builtin} {name : String} (h : kind.name? = some name)
    (type : String) : (withTypes declarations).resolve (some name) type = .builtin kind := by
  have hfound := (named?_withTypes_iff declarations).2 ⟨kind, h, rfl⟩
  have hname : name ≠ "" := by
    cases kind <;> cases h <;> decide
  simp [resolve, find?, Option.filter, hname, hfound]

/-- Suppliers have a formatter of their own, whatever is declared of their type. -/
theorem resolve_supplier {format : Option String} (h : Builtin.Unnamed format) :
    (withTypes declarations).resolve format "supplier" = .builtin .supplier := by
  have hnone : (format.filter (· ≠ "")).bind (withTypes declarations).named? = none := by
    rw [Option.bind_eq_none_iff]
    intro name hname
    rw [Option.eq_none_iff_forall_ne_some]
    intro formatter hfound
    obtain ⟨kind, hkind, -⟩ := (named?_withTypes_iff declarations).1 hfound
    exact h kind name hkind (Option.filter_eq_some_iff.1 hname).1
  have hhead : ((withTypes declarations).formattersFor "supplier").head? =
      some (.builtin .supplier) := by
    obtain ⟨rest, hwalk⟩ := (withTypes declarations).types.exists_walk_eq_cons "supplier"
    have htyped : standard.typed.lookup "supplier" = some [⟨127, 9, .builtin .supplier⟩] := rfl
    rw [formattersFor, hwalk, (formatters_withTypes declarations).2, List.flatMap_cons, htyped]
    rfl
  rw [resolve, find?, hnone, hhead]
  rfl

/-- No formatter that is built in knows a size of a supplier. -/
theorem AllBuiltin.size?_supplier {registry : Registry} (h : registry.AllBuiltin) (value : Value) :
    registry.size? (.supplier value) = none := by
  rw [size?, List.findSome?_eq_none_iff]
  intro formatter hf
  obtain ⟨kind, rfl⟩ := h.isBuiltin_of_mem_formattersFor hf
  cases kind <;> rfl

/-- Where no formatter that is built in knows better, a value is empty by its text. -/
theorem AllBuiltin.matchEmpty_eq {registry : Registry} (h : registry.AllBuiltin)
    {relation : Comparator} {value : Value}
    (hnone : ∀ kind : Builtin, kind.matchEmpty? relation value = none) :
    registry.matchEmpty relation value = matchEmptyText relation value := by
  have hfind : ((registry.formattersFor value.typeName).findSome? fun formatter =>
      formatter.matchEmpty? relation value) = none := by
    rw [List.findSome?_eq_none_iff]
    intro formatter hf
    obtain ⟨kind, rfl⟩ := h.isBuiltin_of_mem_formattersFor hf
    exact hnone kind
  rw [matchEmpty, hfind]
  rfl

end Registry

/-! ### Keys -/

/-- A value of the type of suppliers that has the text of a value and nothing else. -/
def Value.textOnly (value : Value) : Value := .object "supplier" value.display

/-- Keys see no more of a supplier than the text of what it supplies. -/
theorem matchKey_supplier {context : Context} (hb : context.registry.AllBuiltin)
    (parameters : Parameters) (value : Value) :
    matchKey (context.matching parameters) (.supplier value) =
      matchKey (context.matching parameters) value.textOnly := by
  funext key
  cases key with
  | bool | name | null | number | string => rfl
  | empty relation =>
    have hsupplier : context.registry.matchEmpty relation (.supplier value) =
        matchEmptyText relation (.supplier value) := by
      apply hb.matchEmpty_eq
      intro kind
      cases kind <;> rfl
    have htext : context.registry.matchEmpty relation value.textOnly =
        matchEmptyText relation value.textOnly := by
      apply hb.matchEmpty_eq
      intro kind
      cases kind <;> rfl
    exact hsupplier.trans htext.symm

theorem Strength.level_lenientIf_le (holds : Bool) :
    (lenientIf holds).level ≤ lenient.level := by
  cases holds <;> decide

/-- A text matches with the strength that is given for equal ones, or with a weaker one that does
    not depend on it. -/
theorem matchText_eq_ite (relation : Comparator) (key text : String) :
    ∃ (equal : Bool) (weak : Strength), weak.level ≤ Strength.lenient.level ∧
      ∀ identical, matchText relation key text identical = if equal then identical else weak := by
  cases relation with
  | eq =>
    refine ⟨decide (text = key), _, Strength.level_lenientIf_le (sameIgnoringCase text key), ?_⟩
    intro identical
    rw [matchText]
    simp only [decide_eq_true_eq]
  | ne =>
    cases hsame : sameIgnoringCase text key with
    | false =>
      refine ⟨false, .lenient, Nat.le_refl _, fun identical => ?_⟩
      simp only [matchText, hsame, Bool.not_false, if_true, Bool.false_eq_true, if_false]
    | true =>
      refine ⟨Comparator.ne.holds (collate text key), .mismatch, by decide, fun identical => ?_⟩
      simp only [matchText, hsame, Bool.not_true, Bool.false_eq_true, if_false]
  | lt | le | gt | ge =>
    simp only [matchText]
    exact ⟨_, .mismatch, by decide, fun identical => rfl⟩

/-- A supplier shows what it supplies. So strings match both with the same text, and differ by the
    strength of equality only. -/
theorem matchString_supplier {value : Value} (hv : value ≠ .null) (relation : Comparator)
    (key : String) :
    matchString relation key (.supplier value) = .equivalent ∧
        matchString relation key value = (if value.text?.isSome then .exact else .equivalent) ∨
      matchString relation key (.supplier value) = matchString relation key value ∧
        (matchString relation key value).level ≤ Strength.lenient.level := by
  have hsupplier : matchString relation key (.supplier value) =
      matchText relation key value.display .equivalent := rfl
  obtain ⟨equal, weak, hle, htext⟩ := matchText_eq_ite relation key value.display
  rw [hsupplier, matchString_of_ne_null hv, htext, htext]
  cases equal with
  | true => exact .inl ⟨rfl, rfl⟩
  | false => exact .inr ⟨rfl, hle⟩

/-- Strings are in the same order for a supplier and for what it supplies, if this is not null, and
    so are other keys among them that match both alike but not better than leniently. -/
theorem orderedAlike_supplier {m : MatchContext} {value : Value} {keys : List SettingKey}
    (h : ∀ key ∈ keys, key.kind = .string ∧ value ≠ .null ∨
      matchKey m (.supplier value) key = matchKey m value key ∧
        (matchKey m value key).level ≤ Strength.lenient.level) :
    OrderedAlike (matchKey m (.supplier value)) (matchKey m value) keys := by
  -- a value's own text may be an exact match, that of a supplier never is
  have hequal : Strength.lenient.level <
      (if value.text?.isSome then Strength.exact else Strength.equivalent).level := by
    split <;> decide
  have hequal' : Strength.lenient.level < Strength.equivalent.level := by decide
  refine .of_eq_or hequal' hequal fun key hkey => ?_
  rcases h key hkey with ⟨hkind, hv⟩ | hsame
  · cases key with
    | string relation word => exact matchString_supplier hv relation word
    | bool | empty | name | null | number => cases hkind
  · exact .inr hsame

/-! ### Formatters -/

namespace FormatCall

/-- Among the keys of some kinds, the same match a value and a supplier of it, and the same match
    more strongly than others. -/
def OrdersAlike (call : FormatCall) (value : Value) (kinds : List KeyKind) : Prop :=
  OrderedAlike (matchKey (call.context.matching call.parameters) (.supplier value))
    (matchKey (call.context.matching call.parameters) value)
    (call.settings.keys.filter fun key => key.kind ∈ kinds)

/-- A key matches a supplier of a value with the strength with which it matches the value. -/
def MatchesAlike (call : FormatCall) (value : Value) (key : SettingKey) : Prop :=
  matchKey (call.context.matching call.parameters) (.supplier value) key =
    matchKey (call.context.matching call.parameters) value key

/-- What is shown of a truth value, or of none. -/
def showTruth (call : FormatCall) (nested : NestedRenderer call.settings) :
    Option Bool → Except RenderError Fragment
  | none => .ok .empty
  | some flag => call.selectOr nested (.bool flag) [.bool] true (.ok (.unspaced (boolText flag)))

/-- What is shown of a number of characters, elements or entries. -/
def showCount (call : FormatCall) (nested : NestedRenderer call.settings) (n : Nat) :
    Except RenderError Fragment :=
  call.selectOr nested (.ofCount n) [.number] true (formatValue call nested none (.ofCount n))

/-- What is shown of a text that is clipped. -/
def showClipped (call : FormatCall) (nested : NestedRenderer call.settings) (value : Value) :
    Except RenderError Fragment :=
  (formatValue call nested none value).map (clip call.clipLimit)

variable {call : FormatCall} {nested : NestedRenderer call.settings} {value : Value}
  {kinds : List KeyKind} {otherwise : Bool} {alternative : Except RenderError Fragment}

/-- The keys that are compared are in the same order if all match alike. -/
theorem OrdersAlike.of_matchesAlike
    (h : ∀ key ∈ call.settings.keys, key.kind ∈ kinds → call.MatchesAlike value key) :
    call.OrdersAlike value kinds := by
  refine .of_eq fun key hkey => ?_
  obtain ⟨hmem, hkind⟩ := List.mem_filter.1 hkey
  exact h key hmem (of_decide_eq_true hkind)

/-- They are so as well if there are strings among them, as long as nothing else matches better than
    leniently. -/
theorem OrdersAlike.of_strings
    (h : ∀ key ∈ call.settings.keys, key.kind ∈ kinds → key.kind = .string ∧ value ≠ .null ∨
      call.MatchesAlike value key ∧
        (matchKey (call.context.matching call.parameters) value key).level ≤
          Strength.lenient.level) :
    call.OrdersAlike value kinds := by
  refine orderedAlike_supplier fun key hkey => ?_
  obtain ⟨hmem, hkind⟩ := List.mem_filter.1 hkey
  exact h key hmem (of_decide_eq_true hkind)

theorem selectOr_supplier (hb : call.context.registry.AllBuiltin) (hk : .name ∉ kinds) :
    call.selectOr nested (.supplier value) kinds otherwise alternative =
      call.selectOr nested value.textOnly kinds otherwise alternative := by
  have hselect : call.select (.supplier value) kinds otherwise =
      call.select value.textOnly kinds otherwise := by
    rw [select, select, matchKey_supplier hb]
  exact selectOr_eq_of_select hselect (fun _ _ _ => rfl) hk rfl

/-- Where keys are in the same order, the same entry is selected. -/
theorem OrdersAlike.selectOr_eq (hb : call.context.registry.AllBuiltin)
    (h : call.OrdersAlike value kinds) (hk : .name ∉ kinds) :
    call.selectOr nested value.textOnly kinds otherwise alternative =
      call.selectOr nested value kinds otherwise alternative := by
  rw [← selectOr_supplier hb hk]
  exact selectOr_eq_of_select (Settings.select_congr otherwise h) (fun _ _ _ => rfl) hk rfl

end FormatCall

/-- The size that is shown of a value. Null has none. -/
def Context.shownSize (context : Context) (value : Value) : Nat :=
  if value.isNull then 0 else (context.registry.size? value).getD 0

theorem Context.shownSize_supplier {context : Context}
    {declarations : List (String × Option String × List String)}
    (hr : context.registry = .withTypes declarations) (value : Value) :
    context.shownSize (.supplier value) = 0 := by
  have hb : context.registry.AllBuiltin := .of_withTypes hr
  unfold shownSize
  rw [hb.size?_supplier]
  rfl

theorem Value.isNull_of_ne {value : Value} (h : value ≠ .null) : value.isNull = false := by
  cases value with
  | null => exact absurd rfl h
  | _ => rfl

section Format

variable {call : FormatCall} {nested : NestedRenderer call.settings}
  {declarations : List (String × Option String × List String)}
  (hr : call.context.registry = .withTypes declarations)

include hr

/-- A supplier hands over to the formatter of what it supplies. -/
theorem formatValue_supplier {format : Option String} (hf : Builtin.Unnamed format)
    (value : Value) :
    formatValue call nested format (.supplier value) = formatValue call nested format value := by
  have hresolve : call.context.registry.resolve format (Value.supplier value).typeName =
      .builtin .supplier := by
    rw [hr]
    exact Registry.resolve_supplier declarations hf
  rw [formatValue.eq_def call nested format (.supplier value), hresolve]

/-- A format that names a formatter finds it for values of all types. -/
theorem resolve_named (kind : Builtin) {name : String} (hname : kind.name? = some name)
    (value : Value) :
    call.context.registry.resolve (some name) value.typeName = .builtin kind := by
  rw [hr]
  exact Registry.resolve_of_name? declarations hname value.typeName

theorem formatValue_bool (value : Value) :
    formatValue call nested (some "bool") value =
      call.selectOr nested value [.empty, .null] false (call.showTruth nested (truth? value)) := by
  rewrite [formatValue.eq_def, resolve_named hr .bool rfl]
  cases truth? value <;> rfl

theorem formatValue_clip (value : Value) :
    formatValue call nested (some "clip") value =
      call.selectOr nested value [.empty, .null] false
        (if value.isNull then .ok .empty else call.showClipped nested value) := by
  rw [formatValue.eq_def, resolve_named hr .clip rfl]
  rfl

theorem formatValue_choice (value : Value) :
    formatValue call nested (some "choice") value =
      call.selectOr nested value KeyKind.comparing true (.ok .empty) := by
  rw [formatValue.eq_def, resolve_named hr .choice rfl]

theorem formatValue_size (value : Value) :
    formatValue call nested (some "size") value =
      call.showCount nested (call.context.shownSize value) := by
  rw [formatValue.eq_def, resolve_named hr .size rfl]
  rfl

/-- The truth of a supplier is that of what it supplies. -/
theorem formatValue_bool_supplier (value : Value) :
    formatValue call nested (some "bool") (.supplier value) =
      call.selectOr nested value.textOnly [.empty, .null] false
        (call.showTruth nested (truth? value)) := by
  have htruth : truth? (.supplier value) = truth? value := rfl
  rw [formatValue_bool hr, FormatCall.selectOr_supplier (.of_withTypes hr) (by decide), htruth]

/-- A supplier is no null, whatever it supplies. -/
theorem formatValue_clip_supplier (value : Value) :
    formatValue call nested (some "clip") (.supplier value) =
      call.selectOr nested value.textOnly [.empty, .null] false (call.showClipped nested value) := by
  have hclipped : call.showClipped nested (.supplier value) = call.showClipped nested value := by
    rw [FormatCall.showClipped, formatValue_supplier hr Builtin.unnamed_none]
    rfl
  rw [formatValue_clip hr, FormatCall.selectOr_supplier (.of_withTypes hr) (by decide), ← hclipped]
  rfl

theorem formatValue_choice_supplier (value : Value) :
    formatValue call nested (some "choice") (.supplier value) =
      formatValue call nested (some "choice") value.textOnly := by
  rw [formatValue_choice hr, formatValue_choice hr,
    FormatCall.selectOr_supplier (.of_withTypes hr) (by decide)]

theorem formatValue_size_supplier (value : Value) :
    formatValue call nested (some "size") (.supplier value) = call.showCount nested 0 := by
  rw [formatValue_size hr, Context.shownSize_supplier hr]

end Format

/-! ### Formats that see through suppliers -/

/-- A format formats a supplier of a value like the value. -/
inductive FormatCall.SeesThrough (call : FormatCall) (nested : NestedRenderer call.settings)
    (value : Value) : Option String → Prop
  /-- It names no formatter, so that of the type is asked. -/
  | byType {format : Option String} (hf : Builtin.Unnamed format) :
      SeesThrough call nested value format
  /-- The entry for null or empty values is shown alike for the text alone, or else the truth, which
      is that of the supplied value. -/
  | bool (h : call.selectOr nested value.textOnly [.empty, .null] false
        (call.showTruth nested (truth? value)) = formatValue call nested (some "bool") value) :
      SeesThrough call nested value (some "bool")
  /-- The entry for null or empty values is shown alike for the text alone, or else the clipped text
      of the supplied value. -/
  | clip (h : call.selectOr nested value.textOnly [.empty, .null] false
        (call.showClipped nested value) = formatValue call nested (some "clip") value) :
      SeesThrough call nested value (some "clip")
  /-- The same is chosen for the text alone. -/
  | choice (h : formatValue call nested (some "choice") value.textOnly =
        formatValue call nested (some "choice") value) :
      SeesThrough call nested value (some "choice")
  /-- The size is shown like that of a supplier, which has none. -/
  | size (h : call.showCount nested 0 = call.showCount nested (call.context.shownSize value)) :
      SeesThrough call nested value (some "size")

section SeesThrough

variable {call : FormatCall} {nested : NestedRenderer call.settings} {value : Value}
  {declarations : List (String × Option String × List String)}
  (hr : call.context.registry = .withTypes declarations)

include hr

theorem FormatCall.SeesThrough.formatValue_eq {format : Option String}
    (h : call.SeesThrough nested value format) :
    formatValue call nested format (.supplier value) = formatValue call nested format value := by
  cases h with
  | byType hf => exact formatValue_supplier hr hf value
  | bool h => rw [formatValue_bool_supplier hr, h]
  | clip h => rw [formatValue_clip_supplier hr, h]
  | choice h => rw [formatValue_choice_supplier hr, h]
  | size h => rw [formatValue_size_supplier hr, formatValue_size hr, h]

/-- A format sees through suppliers exactly where they are formatted like what they supply. -/
theorem formatValue_supplier_iff (format : Option String) :
    formatValue call nested format (.supplier value) = formatValue call nested format value ↔
      call.SeesThrough nested value format := by
  constructor
  · intro h
    by_cases hf : Builtin.Unnamed format
    · exact .byType hf
    · obtain ⟨kind, name, hname, rfl⟩ :
          ∃ kind : Builtin, ∃ name, kind.name? = some name ∧ format = some name := by
        simpa [Builtin.Unnamed] using hf
      cases kind with
      | bool =>
        cases hname
        rw [formatValue_bool_supplier hr] at h
        exact .bool h
      | clip =>
        cases hname
        rw [formatValue_clip_supplier hr] at h
        exact .clip h
      | choice =>
        cases hname
        rw [formatValue_choice_supplier hr] at h
        exact .choice h
      | size =>
        cases hname
        rw [formatValue_size_supplier hr, formatValue_size hr] at h
        exact .size h
      | string | number | list | map | optional | supplier => cases hname
  · intro h
    exact h.formatValue_eq hr

/-! ### Where keys are in the same order -/

theorem FormatCall.OrdersAlike.choice (h : call.OrdersAlike value KeyKind.comparing) :
    call.SeesThrough nested value (some "choice") := by
  apply SeesThrough.choice
  rw [formatValue_choice hr, formatValue_choice hr]
  exact h.selectOr_eq (.of_withTypes hr) (by decide)

theorem FormatCall.OrdersAlike.bool (h : call.OrdersAlike value [.empty, .null]) :
    call.SeesThrough nested value (some "bool") := by
  apply SeesThrough.bool
  rw [formatValue_bool hr]
  exact h.selectOr_eq (.of_withTypes hr) (by decide)

theorem FormatCall.OrdersAlike.clip (h : call.OrdersAlike value [.empty, .null])
    (hv : value ≠ .null) : call.SeesThrough nested value (some "clip") := by
  apply SeesThrough.clip
  rw [formatValue_clip hr, value.isNull_of_ne hv]
  exact h.selectOr_eq (.of_withTypes hr) (by decide)

omit hr in
/-- Where null is formatted like a string, its entry is shown or nothing. -/
theorem formatValue_null (hs : call.context.registry.resolve none "null" = .builtin .string) :
    formatValue call nested none .null =
      call.selectOr nested .null [.empty, .null] false (.ok .empty) := by
  have hresolve : call.context.registry.resolve none Value.null.typeName = .builtin .string := hs
  rw [formatValue.eq_def, hresolve]
  rfl

/-- The entry for null is found when the supplied null is formatted, and clipped then. -/
theorem FormatCall.SeesThrough.clip_null
    (hs : call.context.registry.resolve none "null" = .builtin .string)
    (hnone : call.select (.supplier .null) [.empty, .null] false = none)
    (hfits : (formatValue call nested (some "clip") .null).map (Phrasebook.clip call.clipLimit) =
      formatValue call nested (some "clip") .null) :
    call.SeesThrough nested .null (some "clip") := by
  have hclip : formatValue call nested (some "clip") .null = formatValue call nested none .null := by
    rw [formatValue_clip hr, formatValue_null hs]
    rfl
  apply SeesThrough.clip
  rw [← selectOr_supplier (.of_withTypes hr) (by decide), selectOr_of_select_none hnone, showClipped,
    ← hclip, hfits]

end SeesThrough

/-! ### Messages -/

/-- Wherever rendering a message comes to the parameter, what is asked for sees through a supplier
    of the value. -/
inductive Message.SeesThrough (context : Context) (parameters : Parameters) (name : String)
    (value : Value) : Message → Prop
  /-- It is so in the message, and in what rendering it comes to. -/
  | intro {message : Message}
      (places : ∀ place,
        message.ComesToPlace context (parameters.insert name (.supplier value)) place →
        place.name = name →
        FormatCall.SeesThrough ⟨context, parameters.insert name value, place.settings⟩
          (fun v _ => renderNested context (parameters.insert name value) v) value place.format)
      (inners : ∀ inner,
        message.ComesTo context (parameters.insert name (.supplier value)) inner →
        inner.SeesThrough context parameters name value) :
      message.SeesThrough context parameters name value

variable {context : Context} {declarations : List (String × Option String × List String)}
  {parameters : Parameters} {name : String} {value : Value}

theorem Context.valueOf_insert (context : Context) (parameters : Parameters) (name : String)
    (value : Value) : context.valueOf (parameters.insert name value) name = .ok value := by
  rw [valueOf, Parameters.get?_insert, if_pos rfl]

theorem Parameters.agreeOn_insert (strict : Bool) {other : String} (h : other ≠ name)
    (first second : Value) :
    (parameters.insert name first).AgreeOn strict (parameters.insert name second) other := by
  unfold AgreeOn
  rw [get?_insert, get?_insert, if_neg h, if_neg h]
  split <;> rfl

/-- Messages without placeholders come to nothing. -/
theorem Message.SeesThrough.literal (text : Literal) :
    (Message.single (.literal text)).SeesThrough context parameters name value := by
  have hplace : ∀ {p : Parameters} {place : Placeholder},
      ¬ (Message.single (.literal text)).ComesToPlace context p place := by
    intro p place h
    cases List.mem_singleton.1 h.mem_parts
  constructor
  · intro place hp
    exact absurd hp hplace
  · intro inner hi
    cases hi with
    | setting hp => exact absurd hp hplace

/-- A template of one placeholder sees through suppliers as far as the placeholder does, and what
    its settings are read as. -/
theorem Message.SeesThrough.single {place : Placeholder}
    (hplace : place.name = name → FormatCall.SeesThrough
      ⟨context, parameters.insert name value, place.settings⟩
      (fun v _ => renderNested context (parameters.insert name value) v) value place.format)
    (hinner : ∀ v ∈ place.settings.values, ∀ inner, v.toMessage = .ok inner →
      inner.SeesThrough context parameters name value) :
    (Message.single (.placeholder place)).SeesThrough context parameters name value := by
  constructor
  · intro other hp
    obtain rfl := Part.placeholder.inj (List.mem_singleton.1 hp.mem_parts)
    exact hplace
  · intro inner hi
    cases hi with
    | setting hp _ hv hr =>
      obtain rfl := Part.placeholder.inj (List.mem_singleton.1 hp.mem_parts)
      exact hinner _ hv.mem_values inner hr

/-- A supplier is rendered like what it supplies, with the same text or the same error, if the
    placeholders see through it that rendering comes to. -/
theorem Message.SeesThrough.renderMessage_eq (hr : context.registry = .withTypes declarations)
    {message : Message} (h : message.SeesThrough context parameters name value) :
    renderMessage context (parameters.insert name (.supplier value)) message =
      renderMessage context (parameters.insert name value) message := by
  have hb : context.registry.AllBuiltin := .of_withTypes hr
  have hl : (parameters.insert name (.supplier value)).locale =
      (parameters.insert name value).locale := rfl
  induction h with
  | intro places inners ih =>
    refine renderMessage_eq_of_comesTo hl ih ?_
    intro place hp
    have hformat (v : Value) : formatValue ⟨context, parameters.insert name (.supplier value),
          place.settings⟩ (fun v _ => renderNested context (parameters.insert name value) v)
          place.format v =
        formatValue ⟨context, parameters.insert name value, place.settings⟩
          (fun v _ => renderNested context (parameters.insert name value) v) place.format v :=
      formatValue_congr hb hl (fun _ _ _ => rfl) place.format v
    by_cases hname : place.name = name
    · -- first the parameters change, then the value
      have hsees := places place hp hname
      rw [hname, Context.valueOf_insert, Context.valueOf_insert]
      exact (hformat (.supplier value)).trans (hsees.formatValue_eq hr)
    · rw [Context.valueOf_congr (Parameters.agreeOn_insert context.strict hname _ _),
        funext hformat]

/-- A supplier is formatted like what it supplies exactly where the format sees through suppliers.
    That is so where the keys that are compared are in the same order for both. A message is
    rendered alike, with the same text or the same error, if what rendering comes to sees through
    suppliers. -/
theorem renderMessage_insert_supplier (context : Context)
    (declarations : List (String × Option String × List String))
    (hr : context.registry = .withTypes declarations) (value : Value) :
    (∀ (parameters : Parameters) (settings : Settings SettingValue)
        (nested : NestedRenderer settings),
      let call : FormatCall := ⟨context, parameters, settings⟩
      (∀ format, formatValue call nested format (.supplier value) =
          formatValue call nested format value ↔ call.SeesThrough nested value format) ∧
      (call.OrdersAlike value KeyKind.comparing → call.SeesThrough nested value (some "choice")) ∧
      (call.OrdersAlike value [.empty, .null] →
        call.SeesThrough nested value (some "bool") ∧
          (value ≠ .null → call.SeesThrough nested value (some "clip"))) ∧
      ∀ kinds : List KeyKind,
        ((∀ key ∈ settings.keys, key.kind ∈ kinds → call.MatchesAlike value key) ∨
          ∀ key ∈ settings.keys, key.kind ∈ kinds → key.kind = .string ∧ value ≠ .null ∨
            call.MatchesAlike value key ∧
              (matchKey (context.matching parameters) value key).level ≤ Strength.lenient.level) →
        call.OrdersAlike value kinds) ∧
    ∀ (parameters : Parameters) (name : String) (message : Message),
      message.SeesThrough context parameters name value →
        renderMessage context (parameters.insert name (.supplier value)) message =
          renderMessage context (parameters.insert name value) message := by
  refine ⟨?_, fun parameters name message h => h.renderMessage_eq hr⟩
  intro parameters settings nested call
  refine ⟨formatValue_supplier_iff hr, fun h => h.choice hr, ?_, ?_⟩
  · intro h
    exact ⟨h.bool hr, fun hv => h.clip hr hv⟩
  · rintro kinds (h | h)
    · exact .of_matchesAlike h
    · exact .of_strings h

/-- Five is set, and so is its supplier. Null is clipped as the entry for null, and so is its
    supplier. -/
theorem renderMessage_insert_supplier_set :
    let context : Context := { registry := .withTypes [("point", some "shape", [])] }
    let unlessNull : Message := .single (.placeholder ⟨"n", some "choice",
      ⟨[(.null .ne, .string (.ofSource "set"))], some (.string (.ofSource "unset"))⟩, false, false⟩)
    let clipped : Message := .single (.placeholder ⟨"n", some "clip",
      ⟨[(.null .eq, .string (.ofSource "none"))], none⟩, false, false⟩)
    let five : Value := .integer .i32 5
    unlessNull.SeesThrough context {} "n" five ∧
      renderMessage context (Parameters.insert {} "n" (.supplier five)) unlessNull =
        renderMessage context (Parameters.insert {} "n" five) unlessNull ∧
      clipped.SeesThrough context {} "n" .null ∧
      renderMessage context (Parameters.insert {} "n" (.supplier .null)) clipped =
        renderMessage context (Parameters.insert {} "n" .null) clipped := by
  intro context unlessNull clipped five
  have hset : Template.parse "set" = .ok (.single (.literal { text := "set" })) :=
    Template.parse_of_scanStep (by decide) (by cbv)
  have hunset : Template.parse "unset" = .ok (.single (.literal { text := "unset" })) :=
    Template.parse_of_scanStep (by decide) (by cbv)
  have hnone : Template.parse "none" = .ok (.single (.literal { text := "none" })) :=
    Template.parse_of_scanStep (by decide) (by cbv)
  have hentry : renderNested context (Parameters.insert {} "n" .null)
      (.string (.ofSource "none")) = .ok (.unspaced "none") := by
    have hread : (SettingValue.string (.ofSource "none")).toMessage =
        .ok (.single (.literal { text := "none" })) := hnone
    rw [renderNested, hread]
    show renderMessage _ _ _ = _
    rw [renderMessage_parts (by simp) (by simp)]
    rfl
  have hfive : unlessNull.SeesThrough context {} "n" five := by
    refine .single (fun _ => ?_) ?_
    · apply FormatCall.OrdersAlike.choice rfl
      apply FormatCall.OrdersAlike.of_matchesAlike
      intro key hkey _
      obtain rfl := List.mem_singleton.1 hkey
      rfl
    · intro v hv inner hr
      have hv : v ∈ [.string (.ofSource "set"), .string (.ofSource "unset")] := hv
      simp only [List.mem_cons, List.not_mem_nil, or_false] at hv
      rcases hv with rfl | rfl
      · obtain rfl := Except.ok.inj (hset.symm.trans hr)
        exact .literal _
      · obtain rfl := Except.ok.inj (hunset.symm.trans hr)
        exact .literal _
  have hstring : context.registry.resolve none "null" = .builtin .string := by
    have hplain : context.registry.types.Plain ["null", TypeGraph.object] := by
      refine ⟨⟨?_, ?_, ?_⟩, ?_, ?_⟩ <;> decide
    exact Registry.resolve_of_walk hplain.walk_eq rfl
  have hnull : clipped.SeesThrough context {} "n" .null := by
    refine .single (fun _ => ?_) ?_
    · apply FormatCall.SeesThrough.clip_null rfl
      · exact hstring
      · rfl
      · rw [formatValue_clip rfl]
        show (renderNested _ _ _).map _ = renderNested _ _ _
        rw [hentry]
        rfl
    · intro v hv inner hr
      obtain rfl := List.mem_singleton.1 hv
      obtain rfl := Except.ok.inj (hnone.symm.trans hr)
      exact .literal _
  have hthrough := renderMessage_insert_supplier context _ rfl
  exact ⟨hfive, (hthrough five).2 {} "n" unlessNull hfive, hnull,
    (hthrough .null).2 {} "n" clipped hnull⟩

theorem intText_of_lt {n : Nat} (h : n < 10) : intText n = String.ofList [digitChar n] := by
  rw [intText, intChars, if_neg (by omega), Int.natAbs_natCast, decimalDigits, dif_pos h]

/-- Without settings, `size` shows the count. -/
theorem render_size {value : Value} {count : Int64} {text : String}
    (hcount : Value.ofCount (Context.standard.shownSize value) = .integer .i64 count)
    (htext : (Value.integer .i64 count).display = text) :
    render .standard (.single (.placeholder ⟨"x", some "size", {}, false, false⟩))
      (Parameters.insert {} "x" value) = .ok (Fragment.unspaced text).text := by
  let call : FormatCall := ⟨.standard, Parameters.insert {} "x" value, {}⟩
  have hstandard : call.context.registry = .withTypes [] := rfl
  have hresolve : call.context.registry.resolve none (Value.integer .i64 count).typeName =
      .builtin .number := Registry.resolve_standard (.integer .i64 count) (by simp)
  have hformat (nested : NestedRenderer call.settings) :
      formatValue call nested (some "size") value = .ok (.unspaced text) := by
    have hcounted : Value.ofCount (call.context.shownSize value) = .integer .i64 count := hcount
    rw [formatValue_size hstandard, FormatCall.showCount, hcounted,
      FormatCall.selectOr_of_select_none rfl, formatValue.eq_def, hresolve, ← htext]
    rfl
  have hpart : renderPart .standard (Parameters.insert {} "x" value)
      (.placeholder ⟨"x", some "size", {}, false, false⟩) = .ok (.unspaced text) := by
    have hvalue := Context.valueOf_insert .standard {} "x" value
    exact (renderPlaceholder_eq_ok_iff _ hvalue).2 ⟨_, hformat _, rfl⟩
  rw [render, renderMessage_parts (by simp) (by simp)]
  simp only [Message.parts, List.mapM_cons, hpart]
  rfl

/-- By name, `size` has the supplier itself before it, which has no size. -/
theorem render_supplier_size :
    let message : Message := .single (.placeholder ⟨"x", some "size", {}, false, false⟩)
    let abc : Value := .string "abc"
    render .standard message (Parameters.insert {} "x" (.supplier abc)) = .ok "0" ∧
      render .standard message (Parameters.insert {} "x" abc) = .ok "3" := by
  intro message abc
  have hstandard : Context.standard.registry = .withTypes [] := rfl
  have hnone : Context.standard.shownSize (.supplier abc) = 0 :=
    Context.shownSize_supplier hstandard abc
  have hlength : Context.standard.shownSize abc = 3 := by
    have hwalk : Context.standard.registry.types.walk abc.typeName =
        TypeGraph.standard.withInterfaces ["string", TypeGraph.object] :=
      (TypeGraph.plain_valueClimbs _ (by decide)).walk_eq
    rw [Context.shownSize, Registry.size?, Registry.formattersFor, hwalk]
    rfl
  constructor
  · exact (render_size (congrArg _ hnone) (intText_of_lt (by decide : 0 < 10))).trans rfl
  · exact (render_size (congrArg _ hlength) (intText_of_lt (by decide : 3 < 10))).trans rfl

end Phrasebook
