import Phrasebook.Comparator
import Phrasebook.Number.Integer
import Phrasebook.Text.Escape

/-!
# Settings of placeholders

Settings are ordered entries of a key and a value, with a value for everything else. Keys are
unique: `insert` and `setOtherwise` refuse the second one. The type of values is a parameter.
-/

namespace Phrasebook

/-- The key of an entry: what a value is compared with, or the name of an option. -/
inductive SettingKey where
  /-- A truth value. -/
  | bool (value : Bool)
  /-- The keyword `empty`. -/
  | empty (relation : Comparator)
  /-- A name. -/
  | name (word : String)
  /-- The keyword `null`. -/
  | null (relation : Comparator)
  /-- An integer. -/
  | number (relation : Comparator) (value : Int64)
  /-- A string. -/
  | string (relation : Comparator) (text : String)
deriving DecidableEq, Repr, Inhabited

/-- The kinds of keys. -/
inductive KeyKind where
  /-- Truth values. -/
  | bool
  /-- The keyword `empty`. -/
  | empty
  /-- Names. -/
  | name
  /-- The keyword `null`. -/
  | null
  /-- Integers. -/
  | number
  /-- Strings. -/
  | string
deriving DecidableEq, Repr, Inhabited

/-- All kinds of keys. -/
def KeyKind.all : List KeyKind := [.bool, .empty, .name, .null, .number, .string]

/-- The kinds that compare with a value: all but names. -/
def KeyKind.comparing : List KeyKind := [.bool, .empty, .null, .number, .string]

/-- The words for truth values. -/
def boolText (value : Bool) : String := if value then "true" else "false"

namespace SettingKey

/-- The kind of a key. -/
def kind : SettingKey → KeyKind
  | bool _ => .bool
  | empty _ => .empty
  | name _ => .name
  | null _ => .null
  | number _ _ => .number
  | string _ _ => .string

/-- The key as it is written. -/
def source : SettingKey → String
  | bool value => boolText value
  | empty relation => relation.keyMark ++ "empty"
  | name word => word
  | null relation => relation.keyMark ++ "null"
  | number relation value => relation.keyMark ++ intText value.toInt
  | string relation text => relation.keyMark ++ quoteSource (escape text)

end SettingKey

/-- The refusal of a second entry with a key (or of a second value for everything else). -/
structure DuplicateElement where
  /-- The key; none for the value for everything else. -/
  key : Option SettingKey
deriving DecidableEq, Repr

/-- The wording of the refusal. -/
def DuplicateElement.message (_ : DuplicateElement) : String := "duplicate config element"

/-- Ordered entries with a value for everything else. -/
structure Settings (V : Type) where
  /-- Keys and values in the order of their declaration. -/
  entries : List (SettingKey × V) := []
  /-- The value for everything else. -/
  otherwise : Option V := none
deriving Repr, DecidableEq

namespace Settings

variable {V : Type}

instance : Inhabited (Settings V) := ⟨{}⟩

/-- The keys in order. -/
def keys (s : Settings V) : List SettingKey := s.entries.map Prod.fst

/-- All values, that for everything else last. -/
def values (s : Settings V) : List V := s.entries.map Prod.snd ++ s.otherwise.toList

/-- The value of a key. -/
def get? (s : Settings V) (key : SettingKey) : Option V :=
  (s.entries.find? fun entry => entry.1 == key).map Prod.snd

/-- The value of a name. -/
def named? (s : Settings V) (word : String) : Option V := s.get? (.name word)

/-- Adds an entry at the end, unless the key is taken. -/
def insert (s : Settings V) (key : SettingKey) (value : V) :
    Except DuplicateElement (Settings V) :=
  if (s.get? key).isSome then .error ⟨some key⟩
  else .ok { s with entries := s.entries ++ [(key, value)] }

/-- Sets the value for everything else, unless there is one. -/
def setOtherwise (s : Settings V) (value : V) : Except DuplicateElement (Settings V) :=
  if s.otherwise.isSome then .error ⟨none⟩ else .ok { s with otherwise := some value }

/-- Number of entries; the value for everything else does not count. -/
def size (s : Settings V) : Nat := s.entries.length

/-- Tells whether there is neither an entry nor a value for everything else. -/
def isEmpty (s : Settings V) : Bool := s.entries.isEmpty && s.otherwise.isNone

/-- The kinds of keys that occur, in the order of `KeyKind.all`. -/
def kinds (s : Settings V) : List KeyKind :=
  KeyKind.all.filter fun kind => s.keys.any fun key => key.kind == kind

/-- Keys do not repeat. -/
def Distinct (s : Settings V) : Prop := s.keys.Nodup

/-! ## Keys stay unique -/

theorem get?_isSome_iff {s : Settings V} {key : SettingKey} :
    (s.get? key).isSome ↔ key ∈ s.keys := by
  simp [get?, keys, List.find?_isSome]

theorem distinct_empty : Distinct ({} : Settings V) := List.nodup_nil

theorem Distinct.insert {s t : Settings V} {key : SettingKey} {value : V} (h : s.Distinct)
    (ht : s.insert key value = .ok t) : t.Distinct := by
  unfold Settings.insert at ht
  split at ht
  · simp at ht
  · rename_i hk
    simp at ht
    subst ht
    rw [get?_isSome_iff] at hk
    simp only [Distinct, keys, List.map_append, List.map_cons, List.map_nil] at *
    rw [List.nodup_append]
    refine ⟨h, by simp, ?_⟩
    intro a ha b hb hab
    simp at hb
    subst hb
    exact hk (hab ▸ ha)

theorem Distinct.setOtherwise {s t : Settings V} {value : V} (h : s.Distinct)
    (ht : s.setOtherwise value = .ok t) : t.Distinct := by
  unfold Settings.setOtherwise at ht
  split at ht
  · simp at ht
  · simp at ht
    subst ht
    exact h

theorem values_insert {s t : Settings V} {key : SettingKey} {value v : V}
    (ht : s.insert key value = .ok t) (hv : v ∈ t.values) : v ∈ s.values ∨ v = value := by
  unfold Settings.insert at ht
  split at ht
  · simp at ht
  · simp at ht
    subst ht
    simp [values] at hv ⊢
    grind

theorem values_setOtherwise {s t : Settings V} {value v : V}
    (ht : s.setOtherwise value = .ok t) (hv : v ∈ t.values) : v ∈ s.values ∨ v = value := by
  unfold Settings.setOtherwise at ht
  split at ht
  · simp at ht
  · simp at ht
    subst ht
    simp [values] at hv ⊢
    grind

end Settings

end Phrasebook
