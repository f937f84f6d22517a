import HandleWrap.Path

set_option autoImplicit false

/-! # File systems

What a run asks of the files around it. The operations are those of a class, so the same run works
on a tree in memory and on a disk. -/

namespace HandleWrap

/-- Why a file operation fails. -/
inductive FileFault where
  | notFound
  | alreadyThere
  | notDirectory
  | isDirectory
  | nameTooLong
  /-- No path may hold the null character. -/
  | nullInPath
  /-- The content of a file is no text. -/
  | notText
  /-- Any other fault, in the words of the system. -/
  | other (text : String)
deriving DecidableEq, Repr

/-- The words of the system. -/
def FileFault.message : FileFault → String
  | notFound => "No such file or directory (os error 2)"
  | alreadyThere => "File exists (os error 17)"
  | notDirectory => "Not a directory (os error 20)"
  | isDirectory => "Is a directory (os error 21)"
  | nameTooLong => "File name too long (os error 36)"
  | nullInPath => "file name contained an unexpected NUL byte"
  | notText => "stream did not contain valid UTF-8"
  | other text => text

/-- The files that a run reads and writes. -/
class FileSystem (m : Type → Type) where
  /-- Whether a path leads to anything. -/
  isThere (path : String) : m Bool
  /-- Whether a path leads to a directory. -/
  isDirectory (path : String) : m Bool
  /-- The text of a file. -/
  readText (path : String) : m (Except FileFault String)
  /-- Makes one directory. -/
  makeDirectory (path : String) : m (Except FileFault Unit)
  /-- Makes a file of a text, or replaces the content of a file by it. -/
  writeText (path text : String) : m (Except FileFault Unit)

namespace FileSystem

variable {m : Type → Type} [Monad m] [FileSystem m]

/-- Makes a directory unless it is there. -/
def ensureDirectory (path : String) : m (Except FileFault Unit) := do
  match ← makeDirectory path with
  | .ok _ => return .ok ()
  | .error fault => return if ← isDirectory path then .ok () else .error fault

/-- Makes the first of the paths a directory. The others are the paths above it: as far as they are
    missing, they are made first. -/
def makeFirst : List String → m (Except FileFault Unit)
  | [] => return .ok ()
  | path :: above => do
    match ← ensureDirectory path with
    | .error .notFound =>
      match ← makeFirst above with
      | .ok _ => ensureDirectory path
      | .error fault => return .error fault
    | result => return result

/-- Makes a directory and the directories above it, as far as they are missing. -/
def makeDirectories (path : String) : m (Except FileFault Unit) :=
  makeFirst ((path :: Path.above path).filter fun path => !path.isEmpty)

end FileSystem

end HandleWrap
