import Phrasebook.Formatter.Basic
import Phrasebook.Formatter.TypeGraph

/-!
# The registry of formatters

Formatters are found by name, or by the type of a value: the walk of the type gives the types to
look at, and for each of them the registered formatters stand in ascending order, the latest first
among equal orders.
-/

namespace Phrasebook

/-- A formatter in the list of a type. -/
structure Registration where
  /-- Rank among the formatters of the type. -/
  order : Int
  /-- Number of the registration. -/
  sequence : Nat
  /-- The formatter. -/
  formatter : Formatter

/-- Tells whether a registration is tried before another one. -/
def Registration.precedes (a b : Registration) : Bool :=
  a.order < b.order || (a.order == b.order && b.sequence < a.sequence)

/-- Registered formatters. -/
structure Registry where
  /-- The graph of types. -/
  types : TypeGraph
  /-- Formatters by name. -/
  named : List (String × Formatter)
  /-- Formatters by type, in the order in which they are tried. -/
  typed : List (String × List Registration)
  /-- Number of the next registration. -/
  next : Nat

namespace Registry

/-- The registry without formatters. -/
def empty : Registry := ⟨.standard, [], [], 0⟩

/-- Inserts a registration behind those that it does not precede. -/
def insertRegistration (r : Registration) : List Registration → List Registration
  | [] => [r]
  | s :: rest => if r.precedes s then r :: s :: rest else s :: insertRegistration r rest

/-- Adds a registration to the list of a type. -/
def addTyped (name : String) (r : Registration) :
    List (String × List Registration) → List (String × List Registration)
  | [] => [(name, [r])]
  | (key, rs) :: rest =>
    if name = key then (key, insertRegistration r rs) :: rest else (key, rs) :: addTyped name r rest

/-- Registers a formatter under its name, where it replaces an earlier one, and for its types. -/
def register (registry : Registry) (formatter : Formatter) : Registry :=
  let named :=
    match formatter.name? with
    | some name => (name, formatter) :: registry.named.filter (·.1 != name)
    | none => registry.named
  let typed := formatter.types.foldl
    (fun typed type => addTyped type.name ⟨type.order, registry.next, formatter⟩ typed)
    registry.typed
  { registry with named, typed, next := registry.next + 1 }

/-- The registry with the built-in formatters. -/
def standard : Registry := Builtin.all.foldl (fun r kind => r.register (.builtin kind)) empty

/-- Declares a type. -/
def declareType (registry : Registry) (name : String) (super : Option String)
    (interfaces : List String) : Registry :=
  { registry with types := registry.types.declare name super interfaces }

/-- The formatter registered under a name. -/
def named? (registry : Registry) (name : String) : Option Formatter := registry.named.lookup name

/-- The formatters of a type in the order in which they are tried. -/
def formattersFor (registry : Registry) (type : String) : List Formatter :=
  (registry.types.walk type).flatMap fun name =>
    ((registry.typed.lookup name).getD []).map Registration.formatter

/-- The formatter for a value of a type: the one that the format names, or the first of the
    type. -/
def find? (registry : Registry) (format : Option String) (type : String) : Option Formatter :=
  ((format.filter (· ≠ "")).bind registry.named?) <|> (registry.formattersFor type).head?

/-- The formatter for a value of a type; where none is found the one for strings. -/
def resolve (registry : Registry) (format : Option String) (type : String) : Formatter :=
  (registry.find? format type).getD (.builtin .string)

/-- The size of a value according to the first formatter of its type that knows one. -/
def size? (registry : Registry) (value : Value) : Option Nat :=
  (registry.formattersFor value.typeName).findSome? fun formatter => formatter.size? value

/-- How well a value matches `empty`: the first formatter of its type that knows decides, else its
    text. -/
def matchEmpty (registry : Registry) (relation : Comparator) (value : Value) : Strength :=
  ((registry.formattersFor value.typeName).findSome? fun formatter =>
    formatter.matchEmpty? relation value).getD (matchEmptyText relation value)

end Registry

end Phrasebook
