import Phrasebook.Rendering.Lists

/-!
# Formatting a value

A value is formatted by the formatter of its type, or by the one that a format names. Formatters
look for an entry of the settings that matches the value and render the message in it; elements of
lists and maps, the contents of optional values and supplied values go back to their formatters.

A format name is spent when it hands a value on to the formatter of its type, and elements are
smaller than what holds them. So formatting ends: the pair of pending format and size of the value
decreases.
-/

namespace Phrasebook

/-- How the message in a setting is rendered. -/
abbrev NestedRenderer (settings : Settings SettingValue) :=
  (value : SettingValue) → value ∈ settings.values → Except RenderError Fragment

/-- Truth of a value; values that are absent have none. -/
def truth? : Value → Option Bool
  | .null => none
  | .bool value => some value
  | .optional none => none
  | .optional (some value) => truth? value
  | .supplier value => truth? value
  | value =>
    match value.integer?, value.float? with
    | some n, _ => some (n != 0)
    | none, some number => some (!number.isZero && !number.isNaN)
    | none, none => some (eqIgnoringAsciiCase (trimBlank value.display) "true")

/-- The text of a number with the decimal separator of a locale. -/
def numberText (locale : Locale) (value : Value) : String :=
  let separator := locale.decimalSeparator
  if value.float?.isSome && separator != '.' then
    String.ofList (value.display.toList.map fun c => if c = '.' then separator else c)
  else value.display

/-- Renders the best matching entry among keys of some kinds, or takes the alternative. -/
def FormatCall.selectOr (call : FormatCall) (nested : NestedRenderer call.settings) (value : Value)
    (kinds : List KeyKind) (otherwise : Bool) (alternative : Except RenderError Fragment) :
    Except RenderError Fragment :=
  match h : call.select value kinds otherwise with
  | some chosen => nested chosen (FormatCall.mem_values_of_select h)
  | none => alternative

/-- The text of a formatted value; null has a text of its own. -/
def textOr (null : String) (value : Value) (formatted : Except RenderError Fragment) :
    Except RenderError String :=
  if value.isNull then .ok null else formatted.map Fragment.text

/-- The item of a key and a value. -/
def entryItem (separator : String) (key value : Except RenderError String) :
    Except RenderError Fragment := do
  let key ← key
  let value ← value
  .ok (.unspaced (key ++ separator ++ value))

/-- 1 while a format is asked for. -/
def pendingFormat (format : Option String) : Nat := if format.isSome then 1 else 0

/-- Formats a value with the formatter that the format and the type of the value ask for. -/
def formatValue (call : FormatCall) (nested : NestedRenderer call.settings)
    (format : Option String) (value : Value) : Except RenderError Fragment :=
  -- the value's own text; also for a format that was spent, which by its type never asks again
  let plain : Except RenderError Fragment := .ok (.unspaced value.display)
  -- most formatters leave null and empty values to entries of their own
  let unlessEmpty (alternative : Except RenderError Fragment) :=
    call.selectOr nested value [.empty, .null] false alternative
  match call.context.registry.resolve format value.typeName with
  | .builtin .string =>
    unlessEmpty <|
      if value.isNull then .ok .empty
      else call.selectOr nested value [.string] true plain
  | .builtin .number =>
    unlessEmpty <|
      call.selectOr nested value [.number, .bool] true (.ok (.unspaced (numberText call.locale value)))
  | .builtin .bool =>
    unlessEmpty <|
      match truth? value with
      | none => .ok .empty
      | some flag =>
        call.selectOr nested (.bool flag) [.bool] true (.ok (.unspaced (boolText flag)))
  | .builtin .choice => call.selectOr nested value KeyKind.comparing true (.ok .empty)
  | .builtin .size =>
    let count := if value.isNull then 0 else (call.context.registry.size? value).getD 0
    call.selectOr nested (.ofCount count) [.number] true <|
      match format with
      | some _ => formatValue call nested none (.ofCount count)
      | none => .ok (.unspaced (Value.ofCount count).display)
  | .builtin .clip =>
    unlessEmpty <|
      if value.isNull then .ok .empty
      else
        match format with
        | some _ => (formatValue call nested none value).map (clip call.clipLimit)
        | none => plain
  | .builtin .list =>
    unlessEmpty <|
      match value with
      | .list values => do
        let items ← values.attach.mapM fun element => formatValue call nested none element.1
        .ok (call.listStyle.join (items.filter (!·.isEmpty)))
      | _ => plain
  | .builtin .map =>
    unlessEmpty <|
      match value with
      | .map entries => do
        let separator := (call.settingText? "map-kv-sep").getD "="
        let nullKey := (call.settingText? "map-null-key").getD "(null)"
        let nullValue := (call.settingText? "map-null-value").getD "(null)"
        let items ← entries.attach.mapM fun entry =>
          entryItem separator
            (textOr nullKey entry.1.1 (formatValue call nested none entry.1.1))
            (textOr nullValue entry.1.2 (formatValue call nested none entry.1.2))
        .ok (call.listStyle.join items)
      | _ => plain
  | .builtin .optional =>
    unlessEmpty <|
      match value with
      | .optional (some inner) => formatValue call nested none inner
      | _ => .ok .empty
  | .builtin .supplier =>
    match value with
    | .supplier inner => formatValue call nested format inner
    | _ => plain
  | .custom formatter =>
    unlessEmpty <|
      match formatter.render (call.view format) value with
      | .text fragment => .ok fragment
      | .failed reason => .error { cause := .formatterFailed formatter.label reason }
      | .byType =>
        match format with
        | some _ => formatValue call nested none value
        | none => plain
termination_by (pendingFormat format, sizeOf value)
decreasing_by
  all_goals simp only [Prod.lex_def, pendingFormat]
  · simp
  · simp
  · have := List.sizeOf_lt_of_mem element.2
    cases format <;> simp
    omega
  · have := List.sizeOf_lt_of_mem entry.2
    have h : sizeOf entry.1 = 1 + sizeOf entry.1.1 + sizeOf entry.1.2 := rfl
    cases format <;> simp
    omega
  · have := List.sizeOf_lt_of_mem entry.2
    have h : sizeOf entry.1 = 1 + sizeOf entry.1.1 + sizeOf entry.1.2 := rfl
    cases format <;> simp
    omega
  · cases format <;> simp
    omega
  · cases format <;> simp
  · simp

end Phrasebook
