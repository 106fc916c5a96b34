import Phrasebook.Formatter.Registry

/-!
# What rendering depends on
-/

namespace Phrasebook

/-- What rendering depends on besides the message and its parameters. -/
structure Context where
  /-- The formatters. -/
  registry : Registry
  /-- A parameter that is not supplied is an error. -/
  strict : Bool := false
  /-- The locale that stands in for the root locale. -/
  defaultLocale : Option Locale := none
  /-- Settings that placeholders fall back to. -/
  defaults : Settings SettingValue := {}

namespace Context

/-- The context with the built-in formatters and nothing else. -/
def standard : Context := { registry := .standard }

/-- The locale to render with: that of the parameters, or the default one in place of the root. -/
def localeFor (context : Context) (parameters : Parameters) : Locale :=
  match context.defaultLocale with
  | some locale => if parameters.locale.isRoot then locale else parameters.locale
  | none => parameters.locale

/-- What matching has to know. -/
def matching (context : Context) (parameters : Parameters) : MatchContext :=
  ⟨context.localeFor parameters, context.registry.matchEmpty⟩

end Context

namespace SettingValue

/-- The value as a text; messages have none. -/
def text? : SettingValue → Option String
  | .bool value => some (boolText value)
  | .number value => some (intText value.toInt)
  | .string quoted => some quoted.text
  | .message _ => none

/-- The value as an integer, which strings may spell. -/
def number? : SettingValue → Option Int64
  | .number value => some value
  | .string quoted => readInt64? (trimBlank quoted.text).toList
  | _ => none

/-- The value as a truth value, which strings may spell in any case. -/
def bool? : SettingValue → Option Bool
  | .bool value => some value
  | .number value => some (value != 0)
  | .string quoted =>
    let word := trimBlank quoted.text
    if eqIgnoringAsciiCase word "true" then some true
    else if eqIgnoringAsciiCase word "false" then some false
    else none
  | .message _ => none

end SettingValue

/-- One use of a formatter: the context, the parameters, the settings of the placeholder, and the
    format that it asks for. -/
structure FormatCall where
  /-- The context. -/
  context : Context
  /-- The parameters of the message. -/
  parameters : Parameters
  /-- The settings of the placeholder. -/
  settings : Settings SettingValue

namespace FormatCall

/-- The locale to render with. -/
def locale (call : FormatCall) : Locale := call.context.localeFor call.parameters

/-- The setting of a name; the context has the defaults. -/
def setting? (call : FormatCall) (name : String) : Option SettingValue :=
  call.settings.named? name <|> call.context.defaults.named? name

/-- The setting of a name as a text. -/
def settingText? (call : FormatCall) (name : String) : Option String :=
  (call.setting? name).bind SettingValue.text?

/-- The setting of a name as an integer. -/
def settingNumber? (call : FormatCall) (name : String) : Option Int64 :=
  (call.setting? name).bind SettingValue.number?

/-- The value of the best matching entry among keys of some kinds. -/
def select (call : FormatCall) (value : Value) (kinds : List KeyKind) (otherwise : Bool) :
    Option SettingValue :=
  call.settings.select kinds otherwise (matchKey (call.context.matching call.parameters) value)

/-- What a formatter of one's own sees. -/
def view (call : FormatCall) (format : Option String) : FormatView :=
  { format
    locale := call.locale
    parameters := call.parameters
    setting? := call.setting?
    size? := call.context.registry.size? }

theorem mem_values_of_select {call : FormatCall} {value : Value} {kinds : List KeyKind}
    {otherwise : Bool} {v : SettingValue} (h : call.select value kinds otherwise = some v) :
    v ∈ call.settings.values :=
  Settings.mem_values_of_select h

end FormatCall

end Phrasebook
