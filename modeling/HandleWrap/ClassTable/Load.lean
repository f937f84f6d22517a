import HandleWrap.FileSystem
import HandleWrap.Json.Descriptors

set_option autoImplicit false

/-! # Loading class tables

A class table is read from a file that holds its JSON form. -/

namespace HandleWrap

/-- Why a class table cannot be loaded. -/
inductive TableLoadError where
  | missing (path : String)
  | unreadable (fault : FileFault)
  /-- The file holds no class table. -/
  | unfit (path : String) (error : JsonError)
deriving DecidableEq, Repr

namespace TableLoadError

/-- The message for the user. -/
def message : TableLoadError → String
  | missing path => "Class table not found: " ++ path
  | unreadable fault => "IO error: " ++ fault.message
  | unfit path error => "Invalid class table " ++ path ++ ": " ++ error.message

/-- The messages of the errors that led to this one. -/
def causes : TableLoadError → List String
  | missing _ => []
  | unreadable fault => [fault.message]
  | unfit _ error => [error.message]

end TableLoadError

/-- The class table in the file at a path, given what reading the file has led to. -/
def ClassTable.ofFile (path : String) (content : Except FileFault String) :
    Except TableLoadError ClassTable := do
  let text ← content.mapError .unreadable
  (ClassTable.ofText text).mapError (.unfit path)

/-- The class table that a file holds. -/
def ClassTable.load {m : Type → Type} [Monad m] [FileSystem m] (path : String) :
    m (Except TableLoadError ClassTable) := do
  if ← FileSystem.isThere path then
    return ClassTable.ofFile path (← FileSystem.readText path)
  else return .error (.missing path)

end HandleWrap
