import HandleWrap.ClassTable

set_option autoImplicit false

/-! # Errors of a run

Why no output is generated. An error that comes from one C function carries the name of the first
function that it was attributed to. -/

namespace HandleWrap

/-- Why something cannot be generated. -/
inductive GenerationError where
  /-- A type that has no wrapper. -/
  | unsupportedType (type : String)
  /-- A callback that cannot be adapted. -/
  | malformedCallback (param reason : String)
  /-- A failure would have to be reported and no context can be reached. -/
  | missingContext
  /-- The classes do not make a table. -/
  | table (error : TableError)
  /-- An error that comes from the function. -/
  | function (name : String) (cause : GenerationError)
deriving DecidableEq, Repr

namespace GenerationError

/-- The message for the user. -/
def message : GenerationError → String
  | unsupportedType type => "cannot convert type " ++ type ++ " to C++ type"
  | malformedCallback param reason => "malformed callback " ++ param ++ ": " ++ reason
  | missingContext => "no context available to report failures"
  | table error => error.message
  | function name cause => name ++ ": " ++ cause.message

/-- The messages of the errors that led to this one. -/
def causes : GenerationError → List String
  | function _ cause => cause.message :: cause.causes
  | _ => []

/-- The error attributed to a function, unless it is attributed already. -/
def inFunction (error : GenerationError) (name : String) : GenerationError :=
  match error with
  | function _ _ => error
  | _ => function name error

end GenerationError

/-- What attributes the errors of a piece of work to a function. -/
def attributed {α : Type} (name : String) (work : Except GenerationError α) :
    Except GenerationError α :=
  work.mapError (·.inFunction name)

end HandleWrap
