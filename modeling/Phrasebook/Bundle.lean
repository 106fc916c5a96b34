import Phrasebook.Pack.Envelope
import Phrasebook.Rendering.Message
import Phrasebook.Template.Names

/-!
# Bundles

A bundle holds messages by code in the order in which they were added. Bundles are compiled from
tables of templates, and packed as a whole.
-/

namespace Phrasebook

/-- A row of a table: the template of a message for a locale. -/
structure TableRow where
  /-- The code of the message. -/
  code : String
  /-- The locale. -/
  locale : Locale
  /-- The template. -/
  template : String
deriving DecidableEq, Repr

/-- Why a bundle refuses a message, or has none. -/
inductive BundleError where
  /-- A message with the code is there. -/
  | duplicateCode (code : String)
  /-- No message with the code is there. -/
  | unknownCode (code : String)
  /-- The message has no code. -/
  | missingCode
  /-- A table has two templates of a code for the same locale. -/
  | duplicateLocale (code : String) (locale : Locale)
deriving DecidableEq, Repr

/-- The wording of the error. -/
def BundleError.message : BundleError → String
  | duplicateCode code => s!"duplicate message code '{code}'"
  | unknownCode code => s!"unknown message code '{code}'"
  | missingCode => "message without code can not be added to a bundle"
  | duplicateLocale code locale =>
    s!"duplicate locale '{locale.tag}' for message with code '{code}'"

/-- Why something can not be done with a bundle. -/
inductive BundleFailure where
  /-- The bundle refuses. -/
  | bundle (error : BundleError)
  /-- A template is refused. -/
  | template (error : TemplateError)
  /-- A message can not be rendered. -/
  | rendering (error : RenderError)
  /-- A pack is refused. -/
  | pack (error : PackError)
deriving DecidableEq, Repr

/-- Messages by code. -/
structure Bundle where
  /-- Codes and messages in the order of their addition; codes do not repeat. -/
  messages : List (String × Message) := []

instance : Inhabited Bundle := ⟨{}⟩

namespace Bundle

/-- The message with a code. -/
def get? (bundle : Bundle) (code : String) : Option Message := bundle.messages.lookup code

/-- The codes in order. -/
def codes (bundle : Bundle) : List String := bundle.messages.map Prod.fst

/-- Number of messages. -/
def size (bundle : Bundle) : Nat := bundle.messages.length

/-- Adds a message under a code, unless the code is taken. -/
def insert (bundle : Bundle) (code : String) (message : Message) : Except BundleError Bundle :=
  if (bundle.get? code).isSome then .error (.duplicateCode code)
  else .ok ⟨bundle.messages ++ [(code, message)]⟩

/-- Adds a message under its own code. -/
def add (bundle : Bundle) (message : Message) : Except BundleError Bundle :=
  match message.code? with
  | some code => bundle.insert code message
  | none => .error .missingCode

/-- Adds messages in order under their own codes. -/
def ofMessages (messages : List Message) : Except BundleError Bundle := messages.foldlM add {}

/-! ## Compiling tables -/

/-- A code with its templates by locale. -/
abbrev CodeGroup := String × List (Locale × String)

/-- Adds a row to the group of its code, unless the group has the locale. -/
def addRow (row : TableRow) : List CodeGroup → Except BundleError (List CodeGroup)
  | [] => .ok [(row.code, [(row.locale, row.template)])]
  | (code, templates) :: groups =>
    if row.code = code then
      if (templates.map Prod.fst).contains row.locale then
        .error (.duplicateLocale row.code row.locale)
      else .ok ((code, templates ++ [(row.locale, row.template)]) :: groups)
    else (addRow row groups).map ((code, templates) :: ·)

/-- Rows by code, in the order in which the codes appear. -/
def groupRows (rows : List TableRow) : Except BundleError (List CodeGroup) :=
  rows.foldlM (fun groups row => addRow row groups) []

/-- Compiles groups into messages with variants. -/
def compileGroups : List CodeGroup → Except TemplateError (List (String × Message))
  | [] => .ok []
  | (code, templates) :: groups => do
    let message ← Template.parseLocalized (some code) templates
    let messages ← compileGroups groups
    .ok ((code, message) :: messages)

/-- Compiles a table. A row that repeats code and locale of an earlier one is refused before any
    template is read. -/
def compile (rows : List TableRow) : Except BundleFailure Bundle :=
  match groupRows rows with
  | .error e => .error (.bundle e)
  | .ok groups =>
    match compileGroups groups with
    | .error e => .error (.template e)
    | .ok messages => .ok ⟨messages⟩

/-! ## Using messages -/

/-- The message with a code, which has to be there. -/
def message (bundle : Bundle) (code : String) : Except BundleFailure Message :=
  match bundle.get? code with
  | some message => .ok message
  | none => .error (.bundle (.unknownCode code))

/-- Renders the message with a code. -/
def render (bundle : Bundle) (context : Context) (code : String) (parameters : Parameters) :
    Except BundleFailure String := do
  let message ← bundle.message code
  match Phrasebook.render context message parameters with
  | .ok text => .ok text
  | .error e => .error (.rendering (e.withCode code))

/-- The names that the message with a code mentions. -/
def parameterNames (bundle : Bundle) (code : String) : Except BundleFailure (List String) := do
  let message ← bundle.message code
  .ok message.mentionedNames

/-! ## Packs -/

/-- Packs all messages in order. -/
def pack (bundle : Bundle) (compress : Bool) : List UInt8 :=
  packMessages compress (bundle.messages.map Prod.snd)

/-- Unpacks a bundle. Every message needs a code of its own. -/
def unpack (bytes : List UInt8) : Except BundleFailure Bundle :=
  match unpackMessages bytes with
  | .error e => .error (.pack e)
  | .ok messages =>
    match ofMessages messages with
    | .error e => .error (.bundle e)
    | .ok bundle => .ok bundle

end Bundle

/-! ## Reports -/

/-- An error of rendering with what lies behind it, outermost first. -/
def RenderError.chain (e : RenderError) : List String :=
  match e.cause with
  | .nestedTemplate error => [e.message, e.cause.message, error.message]
  | cause => [e.message, cause.message]

/-- A failure with what lies behind it, outermost first. -/
def BundleFailure.chain : BundleFailure → List String
  | bundle error => [error.message]
  | template error => [error.message]
  | rendering error => error.chain
  | pack error => error.chain

end Phrasebook
