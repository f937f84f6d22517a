import HandleWrap.CommandLine.Run

set_option autoImplicit false

/-! # The program

The command line over the files on disk and the standard streams. -/

namespace HandleWrap.CommandLine

/-- The number of an error of the system, which some operations give with a minus sign. -/
def errorNumber (code : UInt32) : UInt32 :=
  min code (0 - code)

/-- The fault that an error of the system stands for. -/
def faultOf : IO.Error → FileFault
  | .noFileOrDirectory _ _ _ => .notFound
  | .alreadyExists _ _ _ => .alreadyThere
  | .inappropriateType _ code _ =>
    if errorNumber code = 21 then .isDirectory else .notDirectory
  | .permissionDenied _ code _ =>
    .other ("Permission denied (os error " ++ toString (errorNumber code) ++ ")")
  | e@(.invalidArgument _ code _) =>
    if errorNumber code = 36 then .nameTooLong else .other (toString e)
  | e => .other (toString e)

/-- Does something to the disk. -/
def attempt {α : Type} (action : IO α) : IO (Except FileFault α) :=
  return (← action.toBaseIO).mapError faultOf

/-- Whether a path can be opened, or the fault is another one than that it leads nowhere or can lead
    nowhere. -/
def opens (path : String) : IO Bool := do
  match ← attempt (IO.FS.Handle.mk path .read) with
  | .ok _ => return true
  | .error fault => return fault ∉ [.notFound, .notDirectory, .nameTooLong]

instance : FileSystem IO where
  isThere := opens
  isDirectory path := opens (Path.join path ".")
  readText path := do
    match ← attempt (IO.FS.readBinFile path) with
    | .error fault => return .error fault
    | .ok content => return (String.fromUTF8? content).elim (.error .notText) .ok
  makeDirectory path := attempt (IO.FS.createDir path)
  writeText path text := attempt (IO.FS.writeFile path text)

end HandleWrap.CommandLine

/-- Runs the command line. -/
def main (arguments : List String) : IO UInt32 := do
  let outcome ← (HandleWrap.CommandLine.run arguments : IO HandleWrap.CommandLine.Outcome)
  (← IO.getStdout).putStr outcome.stdout
  (← IO.getStderr).putStr outcome.stderr
  return outcome.code.toUInt32
