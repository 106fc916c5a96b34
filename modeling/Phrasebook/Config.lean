import Phrasebook.Json.Reading
import Phrasebook.Entries
import Phrasebook.Rendering.Context
import Phrasebook.Sharing.Pool

/-!
# Configuration

A configuration is a JSON object. Every field may be left out, and unknown fields are passed over.
An array gives the fields in their order.
-/

namespace Phrasebook

/-- Which nodes a configured pool keeps. -/
inductive SharingKind where
  /-- None. -/
  | none
  /-- All. -/
  | unbounded
  /-- The ones used most recently. -/
  | recent
deriving DecidableEq, Repr, Inhabited

namespace SharingKind

/-- The word for a kind. -/
def word : SharingKind → String
  | none => "none"
  | unbounded => "unbounded"
  | recent => "lru"

/-- The kind of a word. -/
def ofWord? (word : String) : Option SharingKind :=
  [none, unbounded, recent].find? fun kind => kind.word == word

end SharingKind

/-- Settings of a program. -/
structure Config where
  /-- Which nodes are shared. -/
  sharing : SharingKind := .recent
  /-- How many of the nodes used most recently are kept. -/
  capacity : Nat := 256
  /-- A parameter that is not supplied is an error. -/
  strict : Bool := false
  /-- The locale that stands in for the root locale. -/
  defaultLocale : Option Locale := none
  /-- Packs are compressed. -/
  compress : Bool := false
  /-- Settings that placeholders fall back to, by name. -/
  defaults : List (String × SettingValue) := []

instance : Inhabited Config := ⟨{}⟩

/-- Why a configuration is refused. -/
inductive ConfigError where
  /-- No node could ever be kept. -/
  | zeroCapacity
  /-- The source is no JSON document of the expected shape. -/
  | malformed
  /-- The source can not be read. -/
  | unreadable (reason : String)
deriving DecidableEq, Repr

/-- The wording of the error. -/
def ConfigError.message : ConfigError → String
  | zeroCapacity => "normalizer capacity must be greater than 0"
  | malformed => "invalid configuration: malformed document"
  | unreadable reason => s!"unable to read configuration: {reason}"

namespace Config

/-! ## Values of fields -/

/-- The kind of sharing: a word, or an object with the word as its only name and no value. -/
def readSharing? : JsonValue → Option SharingKind
  | .string (some word) => SharingKind.ofWord? word
  | .object [(some word, .null)] => SharingKind.ofWord? word
  | _ => none

/-- Largest number of nodes that can be configured. -/
def capacityLimit : Nat := 0x10000000000000000

/-- A number of nodes. -/
def readCapacity? (value : JsonValue) : Option Nat :=
  match value.integer? with
  | some (.ofNat n) => if n < capacityLimit then some n else none
  | _ => none

/-- A locale; null is none. -/
def readLocale? : JsonValue → Option (Option Locale)
  | .null => some none
  | value => value.text?.bind fun tag => (Locale.parse tag).toOption.map some

/-- A default: a truth value, a 64-bit integer or a string. -/
def readDefault? : JsonValue → Option SettingValue
  | .bool value => some (.bool value)
  | .string (some text) => some (.string (.ofText text))
  | .number spelling => ((JsonValue.number spelling).integer?.bind int64OfInt?).map .number
  | _ => none

/-- Defaults by name; the last value of a name counts. -/
def readDefaults? (value : JsonValue) : Option (List (String × SettingValue)) := do
  let members ← value.members?
  let entries ← members.mapM fun (name, value) => (readDefault? value).map fun d => (name, d)
  return lastEntries entries

/-- The fields in order. -/
def fields : List String :=
  ["normalizer", "normalizer-capacity", "strict-parameters", "default-locale", "compress-packs",
    "defaults"]

/-- The configuration with a value for a field. -/
def setField? (config : Config) (field : String) (value : JsonValue) : Option Config :=
  match field with
  | "normalizer" => (readSharing? value).map fun sharing => { config with sharing }
  | "normalizer-capacity" => (readCapacity? value).map fun capacity => { config with capacity }
  | "strict-parameters" => value.bool?.map fun strict => { config with strict }
  | "default-locale" =>
    (readLocale? value).map fun defaultLocale => { config with defaultLocale }
  | "compress-packs" => value.bool?.map fun compress => { config with compress }
  | "defaults" => (readDefaults? value).map fun defaults => { config with defaults }
  | _ => some config

/-! ## Configurations -/

/-- The configuration that a document describes. A field must not be given twice. -/
def ofJson? : JsonValue → Option Config
  | .array items =>
    if items.length ≤ fields.length then
      (fields.zip items).foldlM (fun config (field, value) => config.setField? field value) {}
    else none
  | .object members => do
    let members ← (JsonValue.object members).members?
    let known := members.filter fun member => member.1 ∈ fields
    if (known.map Prod.fst).Nodup then
      known.foldlM (fun config (field, value) => config.setField? field value) {}
    else none
  | _ => none

/-- The configuration, unless the pool it asks for is impossible. -/
def validate (config : Config) : Except ConfigError Config :=
  if config.sharing = .recent ∧ config.capacity = 0 then .error .zeroCapacity else .ok config

/-- Reads a configuration. -/
def parse (source : String) : Except ConfigError Config :=
  match (JsonValue.read? source).bind ofJson? with
  | some config => config.validate
  | none => .error .malformed

/-- The pool that is asked for. -/
def pool (config : Config) : Pool :=
  { policy :=
      match config.sharing with
      | .none => .none
      | .unbounded => .unbounded
      | .recent => .recent config.capacity }

/-- The defaults as settings. -/
def defaultSettings (config : Config) : Settings SettingValue :=
  { entries := config.defaults.map fun (name, value) => (.name name, value) }

/-- What rendering depends on. -/
def context (config : Config) (registry : Registry) : Context :=
  { registry
    strict := config.strict
    defaultLocale := config.defaultLocale
    defaults := config.defaultSettings }

end Config

end Phrasebook
