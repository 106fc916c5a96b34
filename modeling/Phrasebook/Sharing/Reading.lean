import Phrasebook.Sharing.Pool
import Phrasebook.Template.Nesting

/-!
# Reading templates into shared messages

A reader with a pool says the same as one without, but its messages and parts are shared. A refused
template leaves the pool as it is.
-/

namespace Phrasebook

namespace Pool

/-- Reads a template. -/
def parse (source : String) : ExceptT TemplateError (StateM Pool) SharedMessage := do
  let message ← Template.parse source
  shareMessage message

/-- Reads a template with a code. -/
def parseCoded (code source : String) : ExceptT TemplateError (StateM Pool) SharedMessage := do
  let read : Except TemplateError Message := (Template.parse source).mapError (·.withCode code)
  let message ← read
  let inner ← shareMessage message
  shareWith (.coded code inner.message) []

/-- Reads localized templates. Those in front of a refused one are shared all the same. -/
def parseVariants (code : Option String) :
    List (Locale × String) → ExceptT TemplateError (StateM Pool) (List (Locale × Message))
  | [] => return []
  | (locale, source) :: templates => do
    let message ← Template.parseVariant code locale source
    let shared ← shareMessage message
    return (locale, shared.message) :: (← parseVariants code templates)

/-- Reads localized templates, with a code if one is given. Variants below a code are not shared as
    a message of their own. -/
def parseLocalized (code : Option String) (templates : List (Locale × String)) :
    ExceptT TemplateError (StateM Pool) SharedMessage := do
  let message := Template.ofVariants (← parseVariants code templates)
  match code with
  | some code => shareWith (.coded code message) []
  | none => shareWith message []

/-! ## Nodes from elsewhere -/

/-- New instances of the parts of a message. -/
def numberParts (message : Message) : StateM Pool (List Nat) := message.parts.mapM fun _ => number

/-- Shares a message whose parts are new instances and stay so. -/
def shareWhole (message : Message) : StateM Pool SharedMessage := do
  shareWith message (← numberParts message)

/-- A new instance of a message, which the pool does not keep. -/
def newMessage (message : Message) : StateM Pool SharedMessage := do
  let parts ← numberParts message
  return ⟨← number, message, parts⟩

/-! ## Settings as messages -/

/-- The message of a value in the settings of a part, given its place among them. The message of a
    string is shared and remembered for the instance of the part; others are new each time. -/
def nestedMessage (part place : Nat) (value : SettingValue) :
    ExceptT TemplateError (StateM Pool) SharedMessage := do
  match value with
  | .string quoted =>
    match (← get).nested.lookup (part, place) with
    | some known => return known
    | none =>
      let shared ← parse quoted.source
      modify fun pool => { pool with nested := ((part, place), shared) :: pool.nested }
      return shared
  | value => newMessage (← value.toMessage)

end Pool

end Phrasebook
