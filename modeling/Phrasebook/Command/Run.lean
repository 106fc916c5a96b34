import Phrasebook.Command.Failure
import Phrasebook.Command.Files
import Phrasebook.Command.Invocation

/-!
# Running commands

Each subcommand reads the files it is given and answers with lines of output, or with a report of what
is wrong. The configuration is read first, whether or not the subcommand needs it.
-/

namespace Phrasebook

/-- What a command says and how it ends. -/
structure Outcome where
  /-- Lines of output. -/
  output : List String := []
  /-- Lines of the report. -/
  report : List String := []
  /-- It did not do what was asked for. -/
  failed : Bool := false
deriving DecidableEq, Repr

/-- The text of lines. -/
def unlines (lines : List String) : String := String.join (lines.map (· ++ "\n"))

namespace Command

variable {m : Type → Type} [Monad m]

/-! ## Files -/

/-- The content of a file. -/
def readBytes (files : FileAccess m) (path : String) : ExceptT CommandError m (List UInt8) := do
  match ← files.read path with
  | .ok content => return content
  | .error reason => throw (.unreadable path reason)

/-- Why a file that is no text can not be read as one. -/
def notText : String := "stream did not contain valid UTF-8"

/-- The text of a file, or why there is none. -/
def readText (files : FileAccess m) (path : String) : m (Except String String) := do
  match ← files.read path with
  | .ok content => return (readUtf8 content).mapError fun _ => notText
  | .error reason => return .error reason

/-- The configuration in a file; without one all fields have their defaults. -/
def loadConfig (files : FileAccess m) : Option String → ExceptT CommandError m Config
  | none => return {}
  | some path => do
    match ← (readText files path : m _) with
    | .error reason => throw (.config path (.unreadable reason))
    | .ok source =>
      match Config.parse source with
      | .ok config => return config
      | .error e => throw (.config path e)

/-- The rows of the table in a file. -/
def loadTable (files : FileAccess m) (path : String) :
    ExceptT CommandError m (List TableRow) := do
  match ← (readText files path : m _) with
  | .error reason => throw (.unreadable path reason)
  | .ok source => (Table.parse source).mapError (CommandError.table path)

/-- Compiles the rows of the table in a file. -/
def compileRows (path : String) (rows : List TableRow) : Except CommandError Bundle :=
  (Bundle.compile rows).mapError (.compile path)

/-- Unpacks the content of a file. -/
def unpackBytes (path : String) (content : List UInt8) : Except CommandError Bundle :=
  (Bundle.unpack content).mapError (.unpack path)

/-- The bundle that the content of a file is: a pack if it begins like one, else a table. -/
def readBundle (path : String) (content : List UInt8) : Except CommandError Bundle :=
  if packMark.isPrefixOf content then unpackBytes path content
  else do
    let source ← (readUtf8 content).mapError (CommandError.unknownContent path)
    let rows ← (Table.parse source).mapError (CommandError.table path)
    compileRows path rows

/-! ## Subcommands -/

/-- Compiles a table and writes the pack of it. -/
def pack (files : FileAccess m) (config : Config) (table output : String) (compress : Bool) :
    ExceptT CommandError m Outcome := do
  let rows ← loadTable files table
  let bundle ← compileRows table rows
  match ← files.write output (bundle.pack (compress || config.compress)) with
  | .ok () =>
    return { output := [s!"packed {natText bundle.size} messages into {output}"] }
  | .error reason => throw (.unwritable output reason)

/-- What a listing calls a locale. -/
def localeLabel (locale : Locale) : String := if locale.isRoot then "root" else locale.tag

/-- The lines about a message in a listing: the code, the locales if there are any, the parameters. -/
def describe (code : String) (message : Message) : List String :=
  [code] ++
    (if message.locales.isEmpty then []
      else ["  locales:    " ++ ", ".intercalate (message.locales.map localeLabel)]) ++
    ["  parameters: " ++ ", ".intercalate message.mentionedNames]

/-- Lists the messages of a pack. -/
def unpack (files : FileAccess m) (path : String) : ExceptT CommandError m Outcome := do
  let bundle ← unpackBytes path (← readBytes files path)
  return { output := bundle.messages.flatMap fun (code, message) => describe code message }

/-- The parameters that arguments give. -/
def readParameters (locale : Option String) (assignments : List String) :
    Except CommandError Parameters := do
  let locale ← (Locale.parse (locale.getD "")).mapError CommandError.locale
  (Assignment.parseAll assignments { locale }).mapError CommandError.assignment

/-- Renders a message of a bundle with what arguments give. -/
def formatMessage (context : Context) (bundle : Bundle) (code : String)
    (locale : Option String) (assignments : List String) : Except CommandError String := do
  let parameters ← readParameters locale assignments
  (bundle.render context code parameters).mapError CommandError.message

/-- Renders a message of a table or pack. -/
def format (files : FileAccess m) (context : Context) (path code : String)
    (locale : Option String) (assignments : List String) : ExceptT CommandError m Outcome := do
  let bundle ← readBundle path (← readBytes files path)
  let text ← formatMessage context bundle code locale assignments
  return { output := [text] }

/-- What a check of a table says. -/
def checkOutcome (path : String) (rows : List TableRow) : Outcome :=
  match Table.check rows with
  | [] => { output := [s!"{path}: {natText rows.length} templates ok"] }
  | errors =>
    { report := errors.map TemplateError.message ++
        [s!"{path}: {natText errors.length} invalid templates"]
      failed := true }

/-- Looks for refused templates in a table. -/
def check (files : FileAccess m) (path : String) : ExceptT CommandError m Outcome := do
  return checkOutcome path (← loadTable files path)

/-- Does what an invocation asks for. -/
def perform (files : FileAccess m) (invocation : Invocation) :
    ExceptT CommandError m Outcome := do
  let config ← loadConfig files invocation.config
  match invocation.subcommand with
  | .pack table output compress => pack files config table output compress
  | .unpack path => unpack files path
  | .format path code locale assignments =>
    format files (config.context .standard) path code locale assignments
  | .check table => check files table

/-- Does what an invocation asks for, and reports an error. -/
def run (files : FileAccess m) (invocation : Invocation) : m Outcome := do
  match ← (perform files invocation).run with
  | .ok outcome => return outcome
  | .error e => return { report := ["Error: " ++ e.report], failed := true }

end Command

end Phrasebook
