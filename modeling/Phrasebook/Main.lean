import Phrasebook.Command.Run
import Phrasebook.Command.Usage

/-!
# The program

Runs a command on the files of the system.
-/

namespace Phrasebook

/-- The number of an error of the system, which may be told with a negative sign in 32 bits. -/
def systemNumber (code : UInt32) : Nat :=
  if code.toNat < 0x80000000 then code.toNat else 0x100000000 - code.toNat

/-- The wording of a failure of the system. -/
def systemReason : IO.Error → String
  | .alreadyExists _ code details | .interrupted _ code details
  | .noFileOrDirectory _ code details | .invalidArgument _ code details
  | .permissionDenied _ code details | .resourceExhausted _ code details
  | .inappropriateType _ code details | .noSuchThing _ code details
  | .otherError code details | .resourceBusy code details | .resourceVanished code details
  | .unsupportedOperation code details | .hardwareFault code details
  | .unsatisfiedConstraints code details | .illegalOperation code details
  | .protocolError code details | .timeExpired code details =>
    s!"{details.capitalize} (os error {natText (systemNumber code)})"
  | .unexpectedEof => "unexpected end of file"
  | .userError reason => reason

/-- Access to the files of the system. -/
def systemFiles : FileAccess IO where
  read path := do
    try
      return .ok (← IO.FS.readBinFile path).toList
    catch e => return .error (systemReason e)
  write path content := do
    try
      IO.FS.writeBinFile path ⟨content.toArray⟩
      return .ok ()
    catch e => return .error (systemReason e)

end Phrasebook

open Phrasebook

/-- Runs the command that the arguments ask for. The program ends with 0, with 1 if the command
    fails, and with 2 if the arguments are refused. -/
def main (arguments : List String) : IO UInt32 := do
  match Invocation.parse arguments with
  | .error .help =>
    IO.print (unlines helpLines)
    return 0
  | .error .version =>
    IO.print (unlines [versionLine])
    return 0
  | .error e =>
    IO.eprint (unlines [s!"error: {e.message}"])
    return 2
  | .ok invocation =>
    let outcome ← Command.run systemFiles invocation
    IO.print (unlines outcome.output)
    IO.eprint (unlines outcome.report)
    return if outcome.failed then 1 else 0
