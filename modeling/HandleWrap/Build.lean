import HandleWrap.ClassTable.Load
import HandleWrap.Header
import HandleWrap.Settings.Load

set_option autoImplicit false

/-! # Builds

A build makes one header from the class table in one file, as a step of a larger build. It writes
nothing before the whole header is known, so a build that fails early leaves all files as they
are. -/

namespace HandleWrap

/-- What a header is made from, and the name it gets. -/
structure Build where
  /-- Path of the file with the class table. -/
  tablePath : String
  settings : Settings
  /-- Name of the header in its directory. -/
  outputName : String
  /-- Further paths that the header depends on. -/
  watched : List String

/-- Why a header is not built. -/
inductive BuildError where
  /-- A variable of the environment is not set. -/
  | variableMissing (name : String)
  | table (error : TableLoadError)
  | settings (error : SettingsError)
  | generation (error : GenerationError)
  /-- The header cannot be written. -/
  | unwritable (fault : FileFault)
deriving DecidableEq, Repr

/-- The message for the user. -/
def BuildError.message : BuildError → String
  | variableMissing name => "Environment variable not set: " ++ name
  | table error => error.message
  | settings error => "Configuration error: " ++ error.message
  | generation error => "Generation error: " ++ error.message
  | unwritable fault => "IO error: " ++ fault.message

/-- What a successful build has made. -/
structure Built where
  /-- Path of the header. -/
  header : String
  /-- Number of classes in it. -/
  classCount : Nat
deriving DecidableEq, Repr

namespace Build

variable {m : Type → Type} [Monad m] [FileSystem m]

/-- A build with standard settings. -/
def ofTable (path : String) : Build where
  tablePath := path
  settings := .standard
  outputName := "bindings.hpp"
  watched := []

/-- The class table and the text of the header, given what loading the table has led to. -/
def prepare (b : Build) (loaded : Except TableLoadError ClassTable) :
    Except BuildError (ClassTable × String) := do
  if let some problem := b.settings.problem? then throw (.settings (.invalid problem))
  let table ← loaded.mapError .table
  let text ← (generate b.settings table).mapError .generation
  return (table, text)

/-- Makes a file of a text in a directory, which is made as well if it is missing. -/
def place (directory path text : String) : m (Except FileFault Unit) := do
  match ← FileSystem.makeDirectories directory with
  | .ok _ => FileSystem.writeText path text
  | .error fault => return .error fault

/-- Builds into a directory. -/
def into (b : Build) (directory : String) : m (Except BuildError Built) := do
  match b.prepare (← ClassTable.load b.tablePath) with
  | .error e => return .error e
  | .ok (table, text) =>
    let header := Path.join directory b.outputName
    match ← place directory header text with
    | .ok _ => return .ok ⟨header, table.size⟩
    | .error fault => return .error (.unwritable fault)

/-- The lines that tell the larger build when to build again. -/
def dependencyLines (b : Build) : List String :=
  (b.tablePath :: b.watched).map ("cargo:rerun-if-changed=" ++ ·)

/-- Builds into the directory that the environment names, and returns the lines for the larger
    build as well. A relative table path starts at the directory of the package. -/
def run (b : Build) (environment : String → Option String) :
    m (List String × Except BuildError Built) := do
  match environment "OUT_DIR", environment "CARGO_MANIFEST_DIR" with
  | some directory, some package =>
    let placed := { b with tablePath := Path.join package b.tablePath }
    return (b.dependencyLines, ← placed.into directory)
  | none, _ => return ([], .error (.variableMissing "OUT_DIR"))
  | _, none => return ([], .error (.variableMissing "CARGO_MANIFEST_DIR"))

end Build

end HandleWrap
