import Phrasebook.Command.Arguments

/-!
# Usage

What the program says about its arguments.
-/

namespace Phrasebook

/-- The wording of the error. -/
def UsageError.message : UsageError → String
  | missingSubcommand => "a subcommand is required"
  | invalidSubcommand word => s!"there is no subcommand '{word}'"
  | missingArgument name => s!"the argument '{name}' is required"
  | unknownArgument word => s!"unexpected argument '{word}'"
  | invalidValue name => s!"the argument '{name}' needs a value"
  | tooManyValues name => s!"the argument '{name}' takes no value"
  | repeatedOption name => s!"the argument '{name}' is given more than once"
  | help => "help is asked for"
  | version => "the version is asked for"

/-- The name of the program with its version. -/
def versionLine : String := "msgc 0.1.0"

/-- What the program can be asked for. -/
def helpLines : List String :=
  ["Compile, pack, inspect and format message tables",
    "",
    "Usage: msgc [options] pack <table> -o <path> [--compress]",
    "       msgc [options] unpack <pack>",
    "       msgc [options] format <table or pack> <code> [-l <locale>] [-p <name=value>]...",
    "       msgc [options] check <table>",
    "",
    "Options:",
    "      --config <file>  Path to a JSON configuration",
    "  -v, --verbose        Say more",
    "  -h, --help           Print help",
    "  -V, --version        Print version"]

end Phrasebook
