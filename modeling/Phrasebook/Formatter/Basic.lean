import Phrasebook.Parameters
import Phrasebook.Rendering.Failure
import Phrasebook.Selection
import Phrasebook.Text.Fragment

/-!
# Formatters

A formatter has an optional name, by which placeholders ask for it, and types whose values it is
used for. Ten formatters are built in. A formatter of one's own is given by functions; what it
may see of its surroundings is a `FormatView`, and its answer is a text, a failure, or the wish
that the value be formatted by its type.
-/

namespace Phrasebook

/-- A type whose values a formatter is used for. Lower orders are tried first. -/
structure FormattableType where
  /-- Name of the type. -/
  name : String
  /-- Rank among the formatters of the type. -/
  order : Int
deriving DecidableEq, Repr, Inhabited

/-- A type with the order that formatters have unless they say otherwise. -/
def FormattableType.ofName (name : String) : FormattableType := ⟨name, 127⟩

/-- The formatters that are built in. -/
inductive Builtin where
  /-- Strings, characters and, as a last resort, any value. -/
  | string
  /-- Numbers. -/
  | number
  /-- Truth values; by name, truth of any value. -/
  | bool
  /-- By name, the entry that matches a value. -/
  | choice
  /-- By name, the size of a value. -/
  | size
  /-- By name, the beginning of a long text. -/
  | clip
  /-- Lists. -/
  | list
  /-- Maps. -/
  | map
  /-- Values that may be absent. -/
  | optional
  /-- Values that are supplied. -/
  | supplier
deriving DecidableEq, Repr, Inhabited

namespace Builtin

/-- All of them in the order of their registration. -/
def all : List Builtin :=
  [string, number, bool, choice, size, clip, list, map, optional, supplier]

/-- What it is called in reports. -/
def label : Builtin → String
  | string => "string"
  | number => "number"
  | bool => "bool"
  | choice => "choice"
  | size => "size"
  | clip => "clip"
  | list => "list"
  | map => "map"
  | optional => "optional"
  | supplier => "supplier"

/-- The name by which placeholders ask for it. -/
def name? : Builtin → Option String
  | bool => some "bool"
  | choice => some "choice"
  | size => some "size"
  | clip => some "clip"
  | _ => none

/-- The types whose values it is used for. -/
def types : Builtin → List FormattableType
  | string => [.ofName "string", ⟨"char", 125⟩, ⟨"object", 255⟩]
  | number => [.ofName "number"]
  | bool => [.ofName "bool"]
  | list => [.ofName "iterable"]
  | map => [.ofName "map"]
  | optional => [.ofName "optional"]
  | supplier => [.ofName "supplier"]
  | choice | size | clip => []

/-- The size of a value: characters of a string, elements, entries, or one for a value that is
    present. -/
def size? : Builtin → Value → Option Nat
  | string, value => value.text?.map String.length
  | list, .list values => some values.length
  | map, .map entries => some entries.length
  | optional, .optional value => some (if value.isSome then 1 else 0)
  | _, _ => none

/-- How well a value that has a size matches `empty`. -/
def matchEmpty? : Builtin → Comparator → Value → Option Strength
  | list, relation, .list values => some (matchEmptySize relation values.length)
  | map, relation, .map entries => some (matchEmptySize relation entries.length)
  | optional, relation, .optional value =>
    some (matchEmptySize relation (if value.isSome then 1 else 0))
  | _, _, _ => none

end Builtin

/-- What a formatter of one's own may see of its surroundings. -/
structure FormatView where
  /-- Name of the format that the placeholder asks for. -/
  format : Option String
  /-- The locale. -/
  locale : Locale
  /-- The parameters. -/
  parameters : Parameters
  /-- The setting of a name. -/
  setting? : String → Option SettingValue
  /-- The size of a value. -/
  size? : Value → Option Nat

/-- What a formatter of one's own answers. -/
inductive Rendering where
  /-- A text. -/
  | text (fragment : Fragment)
  /-- A failure for a reason. -/
  | failed (reason : String)
  /-- The value is to be formatted by its type. -/
  | byType

/-- A formatter of one's own. -/
structure CustomFormatter where
  /-- What it is called in reports. -/
  label : String
  /-- The name by which placeholders ask for it. -/
  name? : Option String
  /-- The types whose values it is used for. -/
  types : List FormattableType
  /-- Renders a value. -/
  render : FormatView → Value → Rendering
  /-- The size of a value, if it knows one. -/
  size? : Value → Option Nat
  /-- How well a value matches `empty`, if it knows. -/
  matchEmpty? : Comparator → Value → Option Strength

/-- A formatter. -/
inductive Formatter where
  /-- One that is built in. -/
  | builtin (kind : Builtin)
  /-- One of one's own. -/
  | custom (formatter : CustomFormatter)

namespace Formatter

/-- What it is called in reports. -/
def label : Formatter → String
  | builtin kind => kind.label
  | custom formatter => formatter.label

/-- The name by which placeholders ask for it. -/
def name? : Formatter → Option String
  | builtin kind => kind.name?
  | custom formatter => formatter.name?

/-- The types whose values it is used for. -/
def types : Formatter → List FormattableType
  | builtin kind => kind.types
  | custom formatter => formatter.types

/-- The size of a value, if it knows one. -/
def size? : Formatter → Value → Option Nat
  | builtin kind => kind.size?
  | custom formatter => formatter.size?

/-- How well a value matches `empty`, if it knows. -/
def matchEmpty? : Formatter → Comparator → Value → Option Strength
  | builtin kind => kind.matchEmpty?
  | custom formatter => formatter.matchEmpty?

end Formatter

end Phrasebook
