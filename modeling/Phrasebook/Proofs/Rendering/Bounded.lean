import Phrasebook.Proofs.Results
import Phrasebook.Rendering.Message
import Phrasebook.Template.Names

/-! # Rendering with calls of bounded depth

    Formatters go back to formatters, and formatting a value may render messages that were read from
    strings just now. Nothing in these calls says that they end. Here they are written down as they
    are, without a measure that decreases, and may be a number of calls deep; `none` says that this
    depth was not enough.

    * `formatStep`: one use of a formatter, given how values are formatted and settings are rendered;
    * `renderWithin` and `formatWithin`: rendering and formatting;
    * `mentionedWithin`: the names that a message mentions. -/

namespace Phrasebook

/-- What comes out of calls that may be so deep; nothing where they go deeper. -/
abbrev Bounded (α : Type) := ExceptT RenderError Option α

namespace Bounded

variable {α β : Type}

/-- The calls end with a result. -/
def done (result : Except RenderError α) : Bounded α := ExceptT.mk (some result)

/-- The calls go too deep. -/
def tooDeep : Bounded α := ExceptT.mk none

end Bounded

/-! ### Formatting -/

/-- How a value is formatted, with the format that may be asked for. -/
abbrev ValueFormatter := Option String → Value → Bounded Fragment

section Step

variable (call : FormatCall) (nested : SettingValue → Bounded Fragment)

/-- Renders the best matching entry among keys of some kinds, or takes the alternative. -/
def selectStep (value : Value) (kinds : List KeyKind) (otherwise : Bool)
    (alternative : Bounded Fragment) : Bounded Fragment :=
  match call.select value kinds otherwise with
  | some chosen => nested chosen
  | none => alternative

variable (self : ValueFormatter)

/-- The text of a key or a value of a map; null has a text of its own. -/
def textStep (null : String) (value : Value) : Bounded String :=
  if value.isNull then .done (.ok null) else Fragment.text <$> self none value

/-- The item of an entry of a map. -/
def entryStep (entry : Value × Value) : Bounded Fragment := do
  let key ← textStep self ((call.settingText? "map-null-key").getD "(null)") entry.1
  let value ← textStep self ((call.settingText? "map-null-value").getD "(null)") entry.2
  return .unspaced (key ++ (call.settingText? "map-kv-sep").getD "=" ++ value)

/-- One use of the formatter that the format and the type of the value ask for. -/
def formatStep (format : Option String) (value : Value) : Bounded Fragment :=
  let plain : Bounded Fragment := .done (.ok (.unspaced value.display))
  let unlessEmpty (alternative : Bounded Fragment) :=
    selectStep call nested value [.empty, .null] false alternative
  match call.context.registry.resolve format value.typeName with
  | .builtin .string =>
    unlessEmpty <|
      if value.isNull then .done (.ok .empty)
      else selectStep call nested value [.string] true plain
  | .builtin .number =>
    unlessEmpty <|
      selectStep call nested value [.number, .bool] true
        (.done (.ok (.unspaced (numberText call.locale value))))
  | .builtin .bool =>
    unlessEmpty <|
      match truth? value with
      | none => .done (.ok .empty)
      | some flag =>
        selectStep call nested (.bool flag) [.bool] true (.done (.ok (.unspaced (boolText flag))))
  | .builtin .choice => selectStep call nested value KeyKind.comparing true (.done (.ok .empty))
  | .builtin .size =>
    let count := if value.isNull then 0 else (call.context.registry.size? value).getD 0
    selectStep call nested (.ofCount count) [.number] true (self none (.ofCount count))
  | .builtin .clip =>
    unlessEmpty <|
      if value.isNull then .done (.ok .empty) else clip call.clipLimit <$> self none value
  | .builtin .list =>
    unlessEmpty <|
      match value with
      | .list values => do
        let items ← values.mapM (self none)
        return call.listStyle.join (items.filter (!·.isEmpty))
      | _ => plain
  | .builtin .map =>
    unlessEmpty <|
      match value with
      | .map entries => call.listStyle.join <$> entries.mapM (entryStep call self)
      | _ => plain
  | .builtin .optional =>
    unlessEmpty <|
      match value with
      | .optional (some inner) => self none inner
      | _ => .done (.ok .empty)
  | .builtin .supplier =>
    match value with
    | .supplier inner => self format inner
    | _ => plain
  | .custom formatter =>
    unlessEmpty <|
      match formatter.render (call.view format) value with
      | .text fragment => .done (.ok fragment)
      | .failed reason => .done (.error { cause := .formatterFailed formatter.label reason })
      | .byType => self none value

end Step

/-! ### Rendering -/

/-- Renders a placeholder, given how values are formatted with its settings. -/
def placeholderStep (context : Context) (parameters : Parameters)
    (format : Settings SettingValue → ValueFormatter) (place : Placeholder) : Bounded Fragment :=
  ExceptT.adapt (·.withParameter place.name) do
    let value ← Bounded.done (context.valueOf parameters place.name)
    let fragment ← format place.settings place.format value
    return fragment.withSpaces place.spaceBefore place.spaceAfter

/-- Renders a part, given how values are formatted. -/
def partStep (context : Context) (parameters : Parameters)
    (format : Settings SettingValue → ValueFormatter) : Part → Bounded Fragment
  | .literal text => .done (.ok (renderLiteral text))
  | .placeholder place => placeholderStep context parameters format place

/-- Renders what a value in settings is read as, given how messages are rendered. -/
def nestedStep (render : Message → Bounded Fragment) (value : SettingValue) : Bounded Fragment :=
  match value.toMessage with
  | .ok inner => render inner
  | .error e => .done (.error { cause := .nestedTemplate e })

mutual

/-- Renders a message with calls of some depth. -/
def renderWithin (context : Context) (parameters : Parameters) :
    (depth : Nat) → Message → Bounded Fragment
  | 0, _ => .tooDeep
  | depth + 1, .localized variants =>
    match selectVariant variants (context.localeFor parameters) with
    | some variant =>
      ExceptT.adapt (·.withLocale (context.localeFor parameters))
        (renderWithin context parameters depth variant)
    | none => .done (.ok .empty)
  | depth + 1, .coded code inner =>
    ExceptT.adapt (·.withCode code) (renderWithin context parameters depth inner)
  | depth + 1, message =>
    joinParts message <$>
      message.parts.mapM (partStep context parameters (formatWithin context parameters depth))

/-- Formats a value, for a placeholder with some settings, with calls of some depth. -/
def formatWithin (context : Context) (parameters : Parameters) :
    (depth : Nat) → Settings SettingValue → ValueFormatter
  | 0, _, _, _ => .tooDeep
  | depth + 1, settings, format, value =>
    formatStep ⟨context, parameters, settings⟩
      (nestedStep (renderWithin context parameters depth))
      (formatWithin context parameters depth settings) format value

end

/-! ### Names -/

section Names

variable (mentioned : Message → Option (List String))

/-- Collects the names of what a value in settings is read as, given how messages are searched. -/
def valueNamesStep (value : SettingValue) : Option (List String) :=
  match value.toMessage with
  | .ok inner => mentioned inner
  | .error _ => some []

/-- Collects the names of a part, given how messages are searched. -/
def partNamesStep : Part → Option (List String)
  | .literal _ => some []
  | .placeholder place =>
    (place.name :: ·.flatten) <$> place.settings.values.mapM (valueNamesStep mentioned)

end Names

/-- The names that a message mentions, collected by calls of some depth. -/
def mentionedWithin : (depth : Nat) → Message → Option (List String)
  | 0, _ => none
  | depth + 1, .localized variants =>
    List.flatten <$> variants.mapM fun variant => mentionedWithin depth variant.2
  | depth + 1, .coded _ inner => mentionedWithin depth inner
  | depth + 1, message =>
    List.flatten <$> message.parts.mapM (partNamesStep (mentionedWithin depth))

end Phrasebook
