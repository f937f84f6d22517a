import HandleWrap.Spelling

set_option autoImplicit false

/-! # Passing parameters

How a parameter appears in the signature of a wrapper, and which expressions hand it on to the C
function. An object that the callee takes over is released by an argument, which is a copy of the
caller's already; the object that a method is called on must outlive the call, so it hands over a
copy. -/

namespace HandleWrap

/-- Where an object comes from inside a wrapper. -/
inductive Source where
  /-- The object that the method is called on. -/
  | receiver
  /-- An argument of the wrapper. -/
  | argument
deriving DecidableEq, Repr

/-- How a wrapper object gives its handle away. -/
inductive Access where
  /-- It lends the handle. -/
  | borrow
  /-- It hands over a copy. -/
  | copy
  /-- It hands over the handle itself. -/
  | release
deriving DecidableEq, Repr

namespace Access

/-- The access that a source and an ownership mark ask for. -/
def of : Source → Ownership → Access
  | _, .keep => borrow
  | .receiver, .take => copy
  | .argument, .take => release

/-- The member function that does it. -/
def call : Access → String
  | borrow => "get()"
  | copy => "copy()"
  | release => "release()"

end Access

/-- How a parameter is passed to a wrapper. -/
inductive Passing where
  | byValue
  | byConstReference
deriving DecidableEq, Repr

namespace Passing

/-- The way in which a parameter of that category is passed. -/
def of : Category → Ownership → Passing
  | .string, _ | .callback, _ | .borrowedHandle, _ | .context, .keep => byConstReference
  | _, _ => byValue

/-- The declaration of a parameter of that C++ type. -/
def declare : Passing → String → String → String
  | byValue, type, name => declared type name
  | byConstReference, type, name => "const " ++ type ++ " &" ++ name

end Passing

/-- The expression that hands over the handle of `name`. -/
def handleUse (source : Source) (name : String) (ownership : Ownership) : String :=
  match source with
  | .receiver => (Access.of source ownership).call
  | .argument => name ++ "." ++ (Access.of source ownership).call

/-- What wraps a raw handle: an owned one is adopted, a borrowed one copied. -/
def wrapFactory : Ownership → String
  | .take => "manage"
  | .keep => "manage_copy"

namespace Settings

/-- The C value of a three-valued boolean object. -/
def booleanToC (s : Settings) (expr : String) : String :=
  expr ++ ".is_error() ? " ++ s.cName "bool_error" ++ " : " ++ expr ++ ".is_true() ? " ++
    s.cName "bool_true" ++ " : " ++ s.cName "bool_false"

/-- The C value of a C++ `bool`. -/
def boolToC (s : Settings) (expr : String) : String :=
  expr ++ " ? " ++ s.cName "bool_true" ++ " : " ++ s.cName "bool_false"

end Settings

/-- The name of the function that adapts the callback parameter `name`. -/
def trampolineName (name : String) : String :=
  name ++ "_lambda"

/-- The name of the data that goes with the callback parameter `name`. -/
def holderName (name : String) : String :=
  name ++ "_data"

/-- What is passed for the callback parameter `name` and its user data. -/
def callbackUses (name : String) : List String :=
  [trampolineName name, "&" ++ holderName name]

namespace Param

/-- The declaration of a parameter in the signature of a wrapper. Without extensions a context is a
    plain pointer. -/
def declaration (s : Settings) (p : Param) : Except GenerationError String := do
  let (category, type) ← p.type.classify s p.ownership
  if category = .stat then throw (.unsupportedType p.type.describe)
  if p.type.isContext && !s.extensions then return Passing.byValue.declare type p.name
  return (Passing.of category p.ownership).declare type p.name

/-- The expressions that hand a parameter to the C function: two for a callback, which stands for
    its user data too, and one for all else. -/
def uses (s : Settings) (source : Source) (p : Param) : Except GenerationError (List String) :=
  match p.type with
  | .handle _ => .ok [handleUse source p.name p.ownership]
  | .context =>
    .ok [if s.extensions then handleUse source p.name p.ownership else p.name]
  | .enumeration type =>
    .ok [if s.extensions then "static_cast<" ++ type ++ ">(" ++ p.name ++ ")" else p.name]
  | .integer _ => .ok [p.name]
  | .string => .ok [p.name ++ ".c_str()"]
  | .bool => .ok [if s.exceptions then s.boolToC p.name else s.booleanToC p.name]
  | .callback _ => .ok (callbackUses p.name)
  | .stat => .error (.unsupportedType CType.stat.describe)
  | .userData => .error (.unsupportedType CType.userData.describe)
  | .other spelling => .error (.unsupportedType (CType.other spelling).describe)

end Param

end HandleWrap
