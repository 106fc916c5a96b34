import Phrasebook.Message.Settings
import Phrasebook.Number.Shortest
import Phrasebook.Text.Joining

/-!
# Values of parameters

A value has a type name, by which its formatter is found, and a text of its own. Integers and
floating point numbers keep their width; a supplier stands for the value that it yields.
-/

namespace Phrasebook

/-- Widths of integers. -/
inductive IntegerType where
  /-- 8 bits. -/
  | i8
  /-- 16 bits. -/
  | i16
  /-- 32 bits. -/
  | i32
  /-- 64 bits. -/
  | i64
deriving DecidableEq, Repr, Inhabited

/-- The name of an integer type. -/
def IntegerType.name : IntegerType → String
  | .i8 => "i8"
  | .i16 => "i16"
  | .i32 => "i32"
  | .i64 => "i64"

/-- Widths of floating point numbers. -/
inductive FloatType where
  /-- 32 bits. -/
  | f32
  /-- 64 bits. -/
  | f64
deriving DecidableEq, Repr, Inhabited

/-- The name of a floating point type. -/
def FloatType.name : FloatType → String
  | .f32 => "f32"
  | .f64 => "f64"

/-- The format of a floating point type. -/
def FloatType.format : FloatType → FloatFormat
  | .f32 => .binary32
  | .f64 => .binary64

/-- The value of a parameter. -/
inductive Value where
  /-- No value. -/
  | null
  /-- A truth value. -/
  | bool (value : Bool)
  /-- An integer. -/
  | integer (type : IntegerType) (value : Int64)
  /-- A floating point number of the format of its type. -/
  | float (type : FloatType) (value : Floating)
  /-- A character. -/
  | char (value : Char)
  /-- A string. -/
  | string (value : String)
  /-- A list. -/
  | list (values : List Value)
  /-- Keys and values in order. -/
  | map (entries : List (Value × Value))
  /-- A value that may be absent. -/
  | optional (value : Option Value)
  /-- A value that is supplied when it is asked for. -/
  | supplier (value : Value)
  /-- A value of a type of its own, with its text. -/
  | object (type : String) (text : String)
deriving Repr

instance : Inhabited Value := ⟨.null⟩

namespace Value

/-- The name of the type. -/
def typeName : Value → String
  | null => "null"
  | bool _ => "bool"
  | integer type _ => type.name
  | float type _ => type.name
  | char _ => "char"
  | string _ => "string"
  | list _ => "list"
  | map _ => "map"
  | optional _ => "optional"
  | supplier _ => "supplier"
  | object type _ => type

/-- Tells whether there is no value. An empty optional is a value. -/
def isNull : Value → Bool
  | null => true
  | _ => false

/-- The integer that the value is. -/
def integer? : Value → Option Int64
  | integer _ value => some value
  | _ => none

/-- The floating point number that the value is, in 64 bits. -/
def float? : Value → Option Floating
  | float _ value => some (FloatFormat.binary64.convert value)
  | _ => none

/-- Tells whether the value is a number. -/
def isNumber (value : Value) : Bool := value.integer?.isSome || value.float?.isSome

/-- The text of a string or a character. -/
def text? : Value → Option String
  | string value => some value
  | char value => some (String.ofList [value])
  | _ => none

mutual

/-- The text of a value: what has no value is empty, lists stand in brackets and maps in braces. -/
def display : Value → String
  | null => ""
  | bool value => boolText value
  | integer _ value => intText value.toInt
  | float type value => type.format.text value
  | char value => String.ofList [value]
  | string value => value
  | list values => "[" ++ joinWith ", " (displayAll values) ++ "]"
  | map entries => "\x7b" ++ joinWith ", " (displayEntries entries) ++ "\x7d"
  | optional value => displayOption value
  | supplier value => value.display
  | object _ text => text

/-- The texts of values. -/
def displayAll : List Value → List String
  | [] => []
  | value :: values => value.display :: displayAll values

/-- The texts of keys and values. -/
def displayEntries : List (Value × Value) → List String
  | [] => []
  | (key, value) :: entries => (key.display ++ "=" ++ value.display) :: displayEntries entries

/-- The text of a value that may be absent. -/
def displayOption : Option Value → String
  | none => ""
  | some value => value.display

end

/-- The 64-bit integer of a count; counts beyond the range become floating point numbers. -/
def ofCount (n : Nat) : Value :=
  match int64OfInt? n with
  | some value => .integer .i64 value
  | none => .float .f64 (FloatFormat.binary64.ofInt n)

end Value

end Phrasebook
