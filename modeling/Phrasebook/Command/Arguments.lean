/-!
# Command line arguments

Arguments are options with and without values, operands, and the name of a subcommand. The reader
follows a `CommandShape`; it refuses the first argument that does not fit, and an option that is given
twice.
-/

namespace Phrasebook

/-- Why arguments are refused, or answered at once. -/
inductive UsageError where
  /-- A subcommand is needed. -/
  | missingSubcommand
  /-- A word that is no subcommand. -/
  | invalidSubcommand (word : String)
  /-- An operand or option is needed. -/
  | missingArgument (name : String)
  /-- An unknown option, or an operand too many. -/
  | unknownArgument (word : String)
  /-- An option without its value, or a path without characters. -/
  | invalidValue (name : String)
  /-- A value for an option that takes none. -/
  | tooManyValues (name : String)
  /-- An option for the second time. -/
  | repeatedOption (name : String)
  /-- Help is asked for. -/
  | help
  /-- The version is asked for. -/
  | version
deriving DecidableEq, Repr

/-- What an option is for. -/
inductive OptionRole where
  /-- It takes a value, once. -/
  | value
  /-- It takes a value, and may be given again. -/
  | values
  /-- It takes none. -/
  | flag
  /-- It asks for help. -/
  | help
  /-- It asks for the version. -/
  | version
deriving DecidableEq, Repr

/-- An option or operand. -/
structure ArgumentShape where
  /-- The name; of an option, also the long form. -/
  name : String
  /-- The short form of an option. -/
  short : Option Char := none
  /-- What it is for. -/
  role : OptionRole := .value
  /-- It is a path, which has at least one character. -/
  isPath : Bool := false
deriving DecidableEq, Repr

/-- What a command takes. -/
structure CommandShape where
  /-- The options. -/
  options : List ArgumentShape
  /-- The operands in order. -/
  operands : List ArgumentShape := []
  /-- The names of subcommands. -/
  subcommands : List String := []

/-- What was read so far. -/
structure ArgumentState where
  /-- Names and values of options and operands; flags have an empty value. -/
  found : List (String × String) := []
  /-- The latest argument, while its value may be to come or is not looked at. -/
  pending : Option (ArgumentShape × Option String) := none
  /-- Number of operands. -/
  operands : Nat := 0
  /-- Only operands are left. -/
  operandsOnly : Bool := false

namespace ArgumentState

/-- The values of a name in order. -/
def values (s : ArgumentState) (name : String) : List String :=
  s.found.filterMap fun (key, value) => if key = name then some value else none

/-- Tells whether an option waits for its value. -/
def wantsValue (s : ArgumentState) : Bool :=
  match s.pending with
  | some (_, none) => true
  | _ => false

/-- Takes an argument with its value. -/
def accept (s : ArgumentState) (shape : ArgumentShape) (value : String) :
    Except UsageError ArgumentState :=
  if shape.role != .values && !(s.values shape.name).isEmpty then
    .error (.repeatedOption shape.name)
  else if shape.isPath && value.isEmpty then .error (.invalidValue shape.name)
  else .ok { s with found := s.found ++ [(shape.name, value)], pending := none }

/-- Takes the pending argument. -/
def settle (s : ArgumentState) : Except UsageError ArgumentState :=
  match s.pending with
  | none => .ok s
  | some (shape, none) => .error (.invalidValue shape.name)
  | some (shape, some value) => s.accept shape value

/-- Takes an option, with the value attached to it if there is one. -/
def option (s : ArgumentState) (shape : ArgumentShape) (attached : Option String) :
    Except UsageError ArgumentState := do
  let s ← s.settle
  match shape.role with
  | .help => .error .help
  | .version => .error .version
  | .flag => s.accept shape ""
  | .value | .values =>
    match attached with
    | some value => s.accept shape value
    | none => .ok { s with pending := some (shape, none) }

/-- Takes an operand. -/
def operand (s : ArgumentState) (shape : CommandShape) (word : String) :
    Except UsageError ArgumentState :=
  match shape.operands[s.operands]? with
  | some expected => do
    let s ← s.settle
    .ok { s with pending := some (expected, some word), operands := s.operands + 1 }
  | none =>
    if shape.subcommands.isEmpty || s.operandsOnly && word ∈ shape.subcommands then
      .error (.unknownArgument word)
    else .error (.invalidSubcommand word)

/-- Takes an option in its long form. -/
def long (s : ArgumentState) (shape : CommandShape) (text : List Char) :
    Except UsageError ArgumentState :=
  let name := String.ofList (text.takeWhile (· != '='))
  let attached :=
    match text.dropWhile (· != '=') with
    | _ :: value => some (String.ofList value)
    | [] => none
  match shape.options.find? fun o => o.name == name with
  | none => .error (.unknownArgument name)
  | some o =>
    if attached.isSome && o.role != .value && o.role != .values then .error (.tooManyValues name)
    else s.option o attached

/-- Takes options in their short form. What follows one with a value is that value. -/
def shorts (shape : CommandShape) : ArgumentState → List Char → Except UsageError ArgumentState
  | s, [] => .ok s
  | s, c :: cs =>
    match shape.options.find? fun o => o.short == some c with
    | none => .error (.unknownArgument (String.ofList [c]))
    | some o =>
      if o.role = .value ∨ o.role = .values then
        match cs with
        | [] => s.option o none
        | '=' :: value => s.option o (some (String.ofList value))
        | value => s.option o (some (String.ofList value))
      else do
        let s ← s.option o none
        shorts shape s cs

/-- Takes one argument that is not the name of a subcommand. -/
def argument (s : ArgumentState) (shape : CommandShape) (word : String) :
    Except UsageError ArgumentState :=
  if s.operandsOnly then s.operand shape word
  else
    match word.toList with
    | ['-', '-'] => .ok { s with operandsOnly := true }
    | '-' :: '-' :: text => s.long shape text
    | '-' :: c :: cs => shorts shape s (c :: cs)
    | _ =>
      match s.pending with
      | some (o, none) => .ok { s with pending := some (o, some word) }
      | _ => s.operand shape word

/-- Reads arguments up to the name of a subcommand: the state, and the subcommand with the arguments
    behind its name. -/
def read (shape : CommandShape) :
    ArgumentState → List String → Except UsageError (ArgumentState × Option (String × List String))
  | s, [] => .ok (s, none)
  | s, word :: words =>
    if !s.operandsOnly && !s.wantsValue && word ∈ shape.subcommands then
      .ok (s, some (word, words))
    else do
      let s ← s.argument shape word
      read shape s words

/-- The value of a needed argument. -/
def required (s : ArgumentState) (name : String) : Except UsageError String :=
  match s.values name with
  | value :: _ => .ok value
  | [] => .error (.missingArgument name)

end ArgumentState

end Phrasebook
