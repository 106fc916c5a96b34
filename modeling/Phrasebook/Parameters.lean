import Phrasebook.Entries
import Phrasebook.Locale
import Phrasebook.Value

/-!
# Parameters

What a message is rendered with: a locale and named values in the order of their first insertion.
-/

namespace Phrasebook

/-- A locale and named values. -/
structure Parameters where
  /-- The wanted locale. -/
  locale : Locale := .root
  /-- Names and values; names do not repeat. -/
  values : List (String × Value) := []
deriving Repr

namespace Parameters

/-- The value of a name. -/
def get? (p : Parameters) (name : String) : Option Value := p.values.lookup name

/-- The names in order. -/
def names (p : Parameters) : List String := p.values.map Prod.fst

/-- Adds or replaces a value. -/
def insert (p : Parameters) (name : String) (value : Value) : Parameters :=
  { p with values := putEntry name value p.values }

/-- Inserting changes the value of one name and no other. -/
theorem get?_insert (p : Parameters) (name key : String) (value : Value) :
    (p.insert name value).get? key = if key = name then some value else p.get? key :=
  lookup_putEntry name key value p.values

end Parameters

end Phrasebook
