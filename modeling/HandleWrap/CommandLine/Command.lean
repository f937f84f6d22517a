set_option autoImplicit false

/-! # Commands

What the command line asks for. The arguments of `generate` are read from left to right: options
with a value, flags, and the path of one class table. The first argument that does not fit is the
one reported; a missing table is reported only if all arguments fit. -/

namespace HandleWrap.CommandLine

/-- Why a command line is not understood. -/
inductive UsageError where
  | missingCommand
  | unknownCommand (name : String)
  | unknownFlag (flag : String)
  /-- An option stands last. -/
  | missingValue (option : String)
  /-- A path where no more paths are expected. -/
  | unexpected (argument : String)
  /-- A command that needs a class table has none. -/
  | missingTable (command : String)
deriving DecidableEq, Repr

/-- The message for the user. -/
def UsageError.message : UsageError → String
  | missingCommand => "missing command"
  | unknownCommand name => "Unknown command: " ++ name ++ " (see `cwrap help`)"
  | unknownFlag flag => "Unknown flag: " ++ flag
  | missingValue option => option ++ " requires a value"
  | unexpected argument => "Unexpected argument: " ++ argument
  | missingTable command =>
    command ++ " requires a class table (cwrap " ++ command ++ " <table.json>)"

/-- Whether an argument looks like a flag. -/
def isFlag (argument : String) : Bool :=
  argument.toList.head? == some '-'

/-- What `generate` is asked to do. -/
structure GenerateRequest where
  /-- Path of the class table. -/
  table : String
  /-- Path of the settings. -/
  settings : Option String
  /-- Path of the header; without one it goes to standard output. -/
  output : Option String
  noExceptions : Bool
  noExtensions : Bool
deriving DecidableEq, Repr

/-- The arguments of `generate` read so far. -/
structure GenerateDraft where
  table : Option String := none
  settings : Option String := none
  output : Option String := none
  noExceptions : Bool := false
  noExtensions : Bool := false
deriving DecidableEq, Repr

namespace GenerateDraft

/-- The draft with the value of an option set, if the argument is an option. -/
def withOption? (d : GenerateDraft) (argument : String) : Option (String → GenerateDraft) :=
  if argument = "--config" ∨ argument = "-c" then
    some fun value => { d with settings := some value }
  else if argument = "--output" ∨ argument = "-o" then
    some fun value => { d with output := some value }
  else none

/-- The long name of an option. -/
def longName (option : String) : String :=
  if option = "-c" then "--config" else if option = "-o" then "--output" else option

/-- The draft with an argument that stands for itself. -/
def withArgument (d : GenerateDraft) (argument : String) : Except UsageError GenerateDraft :=
  if argument = "--no-exceptions" then .ok { d with noExceptions := true }
  else if argument = "--no-extensions" then .ok { d with noExtensions := true }
  else if isFlag argument then .error (.unknownFlag argument)
  else if d.table.isSome then .error (.unexpected argument)
  else .ok { d with table := some argument }

/-- Reads the arguments from left to right. -/
def read (d : GenerateDraft) : List String → Except UsageError GenerateDraft
  | [] => .ok d
  | [argument] =>
    match d.withOption? argument with
    | some _ => .error (.missingValue (longName argument))
    | none => d.withArgument argument
  | argument :: value :: rest =>
    match d.withOption? argument with
    | some set => (set value).read rest
    | none =>
      match d.withArgument argument with
      | .ok d => d.read (value :: rest)
      | .error e => .error e

end GenerateDraft

/-- What the arguments of `generate` ask for. -/
def GenerateRequest.ofArguments (arguments : List String) : Except UsageError GenerateRequest := do
  let d ← GenerateDraft.read {} arguments
  match d.table with
  | some table => return { d with table }
  | none => throw (.missingTable "generate")

/-- The path that the arguments of `check` give. -/
def checkedPath : List String → Except UsageError String
  | [] => .error (.missingTable "check")
  | [argument] => if isFlag argument then .error (.unknownFlag argument) else .ok argument
  | _ :: extra :: _ => .error (.unexpected extra)

/-- What the command line asks for. -/
inductive Command where
  | generate (request : GenerateRequest)
  | check (path : String)
  | help
deriving DecidableEq, Repr

/-- The command that the arguments give. -/
def Command.ofArguments : List String → Except UsageError Command
  | [] => .error .missingCommand
  | name :: rest =>
    if name = "generate" ∨ name = "gen" then return .generate (← GenerateRequest.ofArguments rest)
    else if name = "check" then return .check (← checkedPath rest)
    else if name = "help" ∨ name = "--help" ∨ name = "-h" then return .help
    else throw (.unknownCommand name)

end HandleWrap.CommandLine
