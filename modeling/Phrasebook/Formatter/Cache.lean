import Phrasebook.Formatter.Registry

/-!
# A registry that remembers

Looking up the formatters of a type walks the graph of types. A registry remembers the lists that
it looked up, and forgets them when a registration or a declaration may change one.

Every such change has a number, its generation. Remembered lists belong to a generation too: a list
is kept only if it was looked up in the generation of those that are there.
-/

namespace Phrasebook

/-- Lists of formatters that were looked up, by type. -/
structure TypeCache where
  /-- The generation that the lists belong to. -/
  generation : Nat := 0
  /-- The lists. -/
  lists : List (String × List Formatter) := []

namespace TypeCache

/-- The list of a type. -/
def get? (cache : TypeCache) (type : String) : Option (List Formatter) := cache.lists.lookup type

/-- Forgets all lists that are older than a generation. -/
def invalidate (cache : TypeCache) (generation : Nat) : TypeCache :=
  if cache.generation < generation then { generation } else cache

/-- Keeps a list that was looked up in a generation, unless the lists belong to another one. A list
    that is there stays. -/
def keep (cache : TypeCache) (generation : Nat) (type : String) (formatters : List Formatter) :
    TypeCache :=
  if cache.generation = generation ∧ (cache.get? type).isNone then
    { cache with lists := (type, formatters) :: cache.lists }
  else cache

end TypeCache

/-- A registry with the lists that it looked up. -/
structure CachedRegistry where
  /-- The registered formatters and declared types. -/
  registry : Registry
  /-- Number of the changes that lists may depend on. -/
  generation : Nat := 0
  /-- The lists. -/
  cache : TypeCache := {}

namespace CachedRegistry

/-- The registry without formatters, before anything is looked up. -/
def empty : CachedRegistry := { registry := .empty }

/-- The registry behind a change that lists may depend on. -/
def change (r : CachedRegistry) (registry : Registry) : CachedRegistry :=
  let generation := r.generation + 1
  ⟨registry, generation, r.cache.invalidate generation⟩

/-- Registers a formatter. One that is for no type is found by its name only, so all lists stay. -/
def register (r : CachedRegistry) (formatter : Formatter) : CachedRegistry :=
  let registry := r.registry.register formatter
  if formatter.types.isEmpty then { r with registry } else r.change registry

/-- Declares a type. -/
def declareType (r : CachedRegistry) (name : String) (super : Option String)
    (interfaces : List String) : CachedRegistry :=
  r.change (r.registry.declareType name super interfaces)

/-- The formatters of a type in the order in which they are tried: a remembered list, or one that
    is looked up now. -/
def formattersFor (type : String) : StateM CachedRegistry (List Formatter) := do
  let r ← get
  match r.cache.get? type with
  | some formatters => return formatters
  | none =>
    let formatters := r.registry.formattersFor type
    set { r with cache := r.cache.keep r.generation type formatters }
    return formatters

/-- The formatter for a value of a type: the one that the format names, or the first of the
    type. -/
def find? (format : Option String) (type : String) : StateM CachedRegistry (Option Formatter) := do
  match (format.filter (· ≠ "")).bind (← get).registry.named? with
  | some formatter => return some formatter
  | none => return (← formattersFor type).head?

/-- The formatter for a value of a type; where none is found the one for strings. -/
def resolve (format : Option String) (type : String) : StateM CachedRegistry Formatter :=
  return (← find? format type).getD (.builtin .string)

end CachedRegistry

end Phrasebook
