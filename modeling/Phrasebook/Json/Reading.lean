import Phrasebook.Json.Token

/-!
# Reading JSON documents

The tokens of a document drive a machine with a stack of open arrays and objects. A document is
read if the machine ends with one complete value.
-/

namespace Phrasebook

/-- An array or object that is not closed yet. What it holds so far comes latest first. -/
inductive OpenJson where
  /-- An array that a value is to be added to. -/
  | array (items : List JsonValue)
  /-- An object, with the name of the value to be added. -/
  | object (members : List (Option String × JsonValue)) (name : Option String)

/-- Where the reading of a document stands, with the arrays and objects around, innermost first. -/
inductive JsonState where
  /-- A value is to come. -/
  | valueDue (around : List OpenJson)
  /-- An array was opened. -/
  | arrayOpened (around : List OpenJson)
  /-- An object was opened. -/
  | objectOpened (around : List OpenJson)
  /-- A name is to come. -/
  | nameDue (members : List (Option String × JsonValue)) (around : List OpenJson)
  /-- The colon behind a name is to come. -/
  | colonDue (members : List (Option String × JsonValue)) (name : Option String)
      (around : List OpenJson)
  /-- An array goes on or ends. -/
  | itemRead (items : List JsonValue) (around : List OpenJson)
  /-- An object goes on or ends. -/
  | memberRead (members : List (Option String × JsonValue)) (around : List OpenJson)
  /-- The document is complete. -/
  | complete (value : JsonValue)

/-- The state behind a value. -/
def JsonState.behind (value : JsonValue) : List OpenJson → JsonState
  | [] => .complete value
  | .array items :: around => .itemRead (value :: items) around
  | .object members name :: around => .memberRead ((name, value) :: members) around

/-- One token further. -/
def JsonState.step : JsonState → JsonToken → Option JsonState
  | .valueDue around, token =>
    match token with
    | .scalar value => some (.behind value around)
    | .arrayStart => some (.arrayOpened around)
    | .objectStart => some (.objectOpened around)
    | _ => none
  | .arrayOpened around, token =>
    match token with
    | .arrayEnd => some (.behind (.array []) around)
    | .scalar value => some (.itemRead [value] around)
    | .arrayStart => some (.arrayOpened (.array [] :: around))
    | .objectStart => some (.objectOpened (.array [] :: around))
    | _ => none
  | .objectOpened around, .objectEnd => some (.behind (.object []) around)
  | .objectOpened around, .scalar (.string name) => some (.colonDue [] name around)
  | .nameDue members around, .scalar (.string name) => some (.colonDue members name around)
  | .colonDue members name around, .colon => some (.valueDue (.object members name :: around))
  | .itemRead items around, .comma => some (.valueDue (.array items :: around))
  | .itemRead items around, .arrayEnd => some (.behind (.array items.reverse) around)
  | .memberRead members around, .comma => some (.nameDue members around)
  | .memberRead members around, .objectEnd => some (.behind (.object members.reverse) around)
  | _, _ => none

namespace JsonValue

/-- Reads a document. -/
def read? (source : String) : Option JsonValue := do
  let tokens ← jsonTokens? source.toList
  match ← tokens.foldlM JsonState.step (.valueDue []) with
  | .complete value => some value
  | _ => none

end JsonValue

end Phrasebook
