import HandleWrap.Build
import HandleWrap.CommandLine.Command

set_option autoImplicit false

/-! # Running commands

What a command line does: the files it changes, what it prints and the code it ends with. A failure
is shown as a chain of messages, from what was attempted down to the cause. -/

namespace HandleWrap.CommandLine

/-- What a run prints and ends with. -/
structure Outcome where
  code : Nat
  stdout : String
  stderr : String
deriving DecidableEq, Repr

/-- The end of a run that went well. -/
def Outcome.success (text : String) : Outcome :=
  ⟨0, text, ""⟩

/-- The end of a run that failed, with the messages from the outermost on. -/
def Outcome.failure (messages : List String) : Outcome :=
  ⟨1, "", "error: " ++ ": ".intercalate messages ++ "\n"⟩

/-- How to use the program. -/
def usage : String :=
  "cwrap - C++ wrapper generator for handle-based C libraries

USAGE:
    cwrap generate <table.json> [OPTIONS]
    cwrap check <table.json>
    cwrap help

GENERATE OPTIONS:
    -c, --config <file.toml>   Load generation settings
    -o, --output <file>        Write to a file instead of stdout
        --no-exceptions        Report failures through result values
        --no-extensions        Disable extended conveniences

ENVIRONMENT:
    CWRAP_LOG                  Log filter (default: warn)
"

/-- One line about a class table. -/
def summary (table : ClassTable) : String :=
  let views := table.toList.countP (·.isTaggedView)
  let functions := (table.toList.flatMap ObjectClass.functions).length
  toString table.size ++ " classes (" ++ toString views ++ " tag-based views), " ++
    toString functions ++ " functions"

/-- The settings of a request once its flags count. -/
def GenerateRequest.adjust (r : GenerateRequest) (s : Settings) : Settings :=
  { s with
    exceptions := s.exceptions && !r.noExceptions
    extensions := s.extensions && !r.noExtensions }

/-- A class table, given what loading it has led to; a failure names the path first. -/
def loadedTable (path : String) (loaded : Except TableLoadError ClassTable) :
    Except (List String) ClassTable :=
  loaded.mapError fun e => ("Failed to load class table " ++ path) :: e.message :: e.causes

/-- The settings of a request, given what loading them has led to. -/
def GenerateRequest.loadedSettings (r : GenerateRequest)
    (loaded : Except SettingsError Settings) : Except (List String) Settings := do
  let s ← loaded.mapError fun e =>
    ("Failed to load config " ++ r.settings.getD "") :: e.message :: e.causes
  return r.adjust s

/-- The text of the header that a request asks for, given its settings and its table. -/
def GenerateRequest.header (r : GenerateRequest) (settings : Except SettingsError Settings)
    (table : Except TableLoadError ClassTable) : Except (List String) String := do
  let s ← r.loadedSettings settings
  let t ← loadedTable r.table table
  (HandleWrap.generate s t).mapError fun e =>
    "Failed to generate bindings" :: e.message :: e.causes

section

variable {m : Type → Type} [Monad m] [FileSystem m]

/-- The settings that a request names, or the standard settings. -/
def GenerateRequest.loadSettings (r : GenerateRequest) : m (Except SettingsError Settings) :=
  match r.settings with
  | some path => Settings.load path
  | none => return .ok .standard

/-- Makes the directory for a file. -/
def makeParent (path : String) : m (Except (List String) Unit) := do
  match (Path.parent? path).filter fun path => !path.isEmpty with
  | none => return .ok ()
  | some directory =>
    return (← FileSystem.makeDirectories directory).mapError fun fault =>
      ["Failed to create " ++ directory, fault.message]

/-- Writes a header, and makes the directory for it. -/
def writeHeader (path text : String) : m (Except (List String) Unit) := do
  match ← makeParent path with
  | .error messages => return .error messages
  | .ok _ =>
    return (← FileSystem.writeText path text).mapError fun fault =>
      ["Failed to write " ++ path, fault.message]

/-- Runs a command; returns what it prints. -/
def Command.run : Command → m (Except (List String) String)
  | .help => return .ok usage
  | .check path => do
    let loaded ← ClassTable.load path
    return (loadedTable path loaded).map fun table => path ++ ": " ++ summary table ++ "\n"
  | .generate request => do
    let settings ← request.loadSettings
    let table ← ClassTable.load request.table
    match request.header settings table with
    | .error messages => return .error messages
    | .ok text =>
      match request.output with
      | none => return .ok text
      | some path => return (← writeHeader path text).map fun _ => ""

/-- Runs a command line. Without a command the usage is shown as well. -/
def run (arguments : List String) : m Outcome := do
  match Command.ofArguments arguments with
  | .error .missingCommand =>
    return { Outcome.failure [UsageError.missingCommand.message] with stdout := usage }
  | .error e => return .failure [e.message]
  | .ok command =>
    match ← command.run with
    | .ok text => return .success text
    | .error messages => return .failure messages

end

end HandleWrap.CommandLine
