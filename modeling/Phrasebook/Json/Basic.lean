import Phrasebook.Number.Integer

/-!
# JSON values

Configurations and tables of messages are JSON documents. Two things are left to those who use a
value: numbers keep their spelling, because what fits depends on the wanted type, and texts with
half of a surrogate pair are kept as no text.
-/

namespace Phrasebook

/-- A JSON value. -/
inductive JsonValue where
  /-- The word `null`. -/
  | null
  /-- A truth value. -/
  | bool (value : Bool)
  /-- A number in its spelling. -/
  | number (spelling : List Char)
  /-- A string; none if an escape is half of a surrogate pair. -/
  | string (text : Option String)
  /-- An array. -/
  | array (items : List JsonValue)
  /-- An object: names and values in order. Names may repeat. -/
  | object (members : List (Option String × JsonValue))

instance : Inhabited JsonValue := ⟨.null⟩

namespace JsonValue

/-- The text of a string. -/
def text? : JsonValue → Option String
  | string text => text
  | _ => none

/-- The truth value. -/
def bool? : JsonValue → Option Bool
  | bool value => some value
  | _ => none

/-- The integer that a number without fraction and exponent spells; zero has no minus sign. -/
def integer? : JsonValue → Option Int
  | number ('-' :: digits) =>
    if digits.all isDigit && digitsValue digits != 0 then some (-(digitsValue digits : Int))
    else none
  | number digits => if digits.all isDigit then some (digitsValue digits) else none
  | _ => none

/-- The members of an object whose names are all texts. -/
def members? : JsonValue → Option (List (String × JsonValue))
  | object members => members.mapM fun (name, value) => name.map fun name => (name, value)
  | _ => none

end JsonValue

end Phrasebook
