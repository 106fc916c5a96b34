import Phrasebook.Number.DecimalText
import Phrasebook.Parameters
import Phrasebook.Text.Spacing

/-!
# Assignments

A parameter is given on the command line as `name=value`. The value is the first of these that it
reads as: an integer, a floating point number, a truth value, a string.
-/

namespace Phrasebook

/-- Why an assignment is refused. -/
inductive AssignmentError where
  /-- There is no equals sign. -/
  | noEquals (assignment : String)
  /-- There is no name in front of it. -/
  | noName (assignment : String)
deriving DecidableEq, Repr

/-- The wording of the error. -/
def AssignmentError.message : AssignmentError → String
  | noEquals assignment => s!"expected name=value, got '{assignment}'"
  | noName assignment => s!"missing parameter name in '{assignment}'"

namespace Assignment

/-- The value that a text reads as. -/
def readValue (text : String) : Value :=
  match readInt64? text.toList, FloatFormat.binary64.read? text.toList with
  | some n, _ => .integer .i64 n
  | none, some number => .float .f64 number
  | none, none =>
    if text = "true" then .bool true
    else if text = "false" then .bool false
    else .string text

/-- Reads an assignment: the name without the whitespace around it, and the value. -/
def parse (assignment : String) : Except AssignmentError (String × Value) :=
  match assignment.toList.dropWhile (· != '=') with
  | [] => .error (.noEquals assignment)
  | _ :: value =>
    let name := trimBlank (String.ofList (assignment.toList.takeWhile (· != '=')))
    if name.isEmpty then .error (.noName assignment)
    else .ok (name, readValue (String.ofList value))

/-- Adds parameters in order. A repeated name takes the later value. -/
def parseAll (assignments : List String) (parameters : Parameters) :
    Except AssignmentError Parameters :=
  assignments.foldlM
    (fun parameters assignment =>
      (parse assignment).map fun (name, value) => parameters.insert name value)
    parameters

end Assignment

end Phrasebook
