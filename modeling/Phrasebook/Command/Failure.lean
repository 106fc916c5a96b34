import Phrasebook.Command.Assignment
import Phrasebook.Config
import Phrasebook.Table

/-!
# Errors of commands

A command fails because of a file, a configuration, a table, a pack, an argument or a message. The
report names the file and ends with what lies behind the failure.
-/

namespace Phrasebook

/-- Why a command fails. -/
inductive CommandError where
  /-- A configuration is refused. -/
  | config (path : String) (error : ConfigError)
  /-- A file can not be read. -/
  | unreadable (path reason : String)
  /-- A file can not be made. -/
  | unwritable (path reason : String)
  /-- A file is no text where a table or a pack is expected. -/
  | unknownContent (path : String) (defect : Utf8Defect)
  /-- A table is refused. -/
  | table (path : String) (error : TableError)
  /-- A table can not be compiled. -/
  | compile (path : String) (failure : BundleFailure)
  /-- A pack is refused. -/
  | unpack (path : String) (failure : BundleFailure)
  /-- A locale tag is refused. -/
  | locale (error : LocaleError)
  /-- An assignment is refused. -/
  | assignment (error : AssignmentError)
  /-- A message can not be rendered. -/
  | message (failure : BundleFailure)
deriving DecidableEq, Repr

/-- The error of a configuration with what lies behind it, outermost first. -/
def ConfigError.chain (e : ConfigError) : List String :=
  match e with
  | .unreadable reason => [e.message, reason]
  | e => [e.message]

namespace CommandError

/-- The error with what lies behind it, outermost first. -/
def chain : CommandError → List String
  | config path error => s!"failed to load config {path}" :: error.chain
  | unreadable path reason => [s!"failed to read {path}", reason]
  | unwritable path reason => [s!"failed to create {path}", reason]
  | unknownContent path defect => [s!"{path} is neither a pack nor UTF-8", defect.message]
  | table path error => s!"in {path}" :: error.chain
  | compile path failure => s!"failed to compile {path}" :: failure.chain
  | unpack path failure => s!"failed to unpack {path}" :: failure.chain
  | locale error => [error.message]
  | assignment error => [error.message]
  | message failure => failure.chain

/-- The report of the error in one line. -/
def report (e : CommandError) : String := ": ".intercalate e.chain

end CommandError

end Phrasebook
