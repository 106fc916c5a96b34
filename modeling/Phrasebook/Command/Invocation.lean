import Phrasebook.Command.Arguments

/-!
# Invocations

What the program is asked to do: a subcommand with its arguments, and the path of a configuration.
-/

namespace Phrasebook

/-- The subcommands. -/
inductive Subcommand where
  /-- Compiles a table into a pack. -/
  | pack (table output : String) (compress : Bool)
  /-- Lists what is in a pack. -/
  | unpack (pack : String)
  /-- Renders a message of a table or pack. -/
  | format (source code : String) (locale : Option String) (assignments : List String)
  /-- Looks for refused templates in a table. -/
  | check (table : String)
deriving DecidableEq, Repr

/-- A subcommand and what goes for all of them. -/
structure Invocation where
  /-- The path of a configuration. -/
  config : Option String
  /-- The subcommand. -/
  subcommand : Subcommand
deriving DecidableEq, Repr

namespace Invocation

/-- The options that every command takes. -/
def commonOptions : List ArgumentShape :=
  [{ name := "verbose", short := some 'v', role := .flag },
    { name := "config", isPath := true },
    { name := "help", short := some 'h', role := .help }]

/-- The names of the subcommands. -/
def subcommands : List String := ["pack", "unpack", "format", "check", "help"]

/-- What the program takes in front of a subcommand. -/
def programShape : CommandShape :=
  { options := commonOptions ++ [{ name := "version", short := some 'V', role := .version }]
    subcommands }

/-- What a subcommand takes. -/
def shapeOf (name : String) : CommandShape :=
  match name with
  | "pack" =>
    { options := commonOptions ++
        [{ name := "output", short := some 'o', isPath := true },
          { name := "compress", role := .flag }]
      operands := [{ name := "table", isPath := true }] }
  | "unpack" => { options := commonOptions, operands := [{ name := "pack", isPath := true }] }
  | "format" =>
    { options := commonOptions ++
        [{ name := "locale", short := some 'l' },
          { name := "param", short := some 'p', role := .values }]
      operands := [{ name := "source", isPath := true }, { name := "code" }] }
  | _ => { options := commonOptions, operands := [{ name := "table", isPath := true }] }

/-- The subcommand that arguments ask for. -/
def subcommandOf (name : String) (s : ArgumentState) : Except UsageError Subcommand :=
  match name with
  | "pack" => do
    .ok (.pack (← s.required "table") (← s.required "output") !(s.values "compress").isEmpty)
  | "unpack" => do .ok (.unpack (← s.required "pack"))
  | "format" => do
    .ok (.format (← s.required "source") (← s.required "code") (s.values "locale").head?
      (s.values "param"))
  | _ => do .ok (.check (← s.required "table"))

/-- What help is asked for by name: known subcommands, none inside another. -/
def helpFor : List String → UsageError
  | [] => .help
  | [word] => if word ∈ subcommands then .help else .invalidSubcommand word
  | word :: next :: _ =>
    if word ∈ subcommands then .invalidSubcommand next else .invalidSubcommand word

/-- Reads the arguments of the program. A configuration named behind the subcommand counts more than
    one in front of it. -/
def parse (words : List String) : Except UsageError Invocation := do
  let (outer, behind) ← ArgumentState.read programShape {} words
  match behind with
  | none =>
    let _ ← outer.settle
    .error .missingSubcommand
  | some ("help", words) => .error (helpFor words)
  | some (name, words) =>
    let (inner, _) ← ArgumentState.read (shapeOf name) {} words
    let inner ← inner.settle
    let subcommand ← subcommandOf name inner
    let outer ← outer.settle
    .ok { config := (inner.values "config").head? <|> (outer.values "config").head?, subcommand }

end Invocation

end Phrasebook
