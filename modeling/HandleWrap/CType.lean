set_option autoImplicit false

/-! # Types on the C side

The closed set of shapes that a parameter or result of a C function can have. A callback is a
function pointer whose last argument is a user-data pointer; what a wrapped closure sees are the
arguments without it (`Callback.publicArgs`). Types nest only through callbacks. -/

namespace HandleWrap

/-- Who owns an object after a call: the callee takes it over, or the caller keeps it. -/
inductive Ownership where
  | take
  | keep
deriving DecidableEq, Repr, Inhabited

namespace Ownership

/-- The name of the mark. -/
def name : Ownership → String
  | take => "take"
  | keep => "keep"

end Ownership

mutual

/-- The type of a C parameter or result. -/
inductive CType where
  /-- Pointer to an opaque library object. -/
  | handle (name : String)
  /-- Pointer to the library context, which wrappers never free. -/
  | context
  /-- True, false or error. -/
  | bool
  /-- Success or error. -/
  | stat
  /-- An enumeration, spelled as in C. -/
  | enumeration (name : String)
  /-- An integer type, spelled as in C. -/
  | integer (name : String)
  /-- A character string. -/
  | string
  /-- A function pointer with user data. -/
  | callback (signature : Callback)
  /-- The user-data pointer that goes with a callback. -/
  | userData
  /-- A type of no known shape, spelled as in C. -/
  | other (spelling : String)

/-- The raw signature of a callback, user-data pointer included. -/
structure Callback where
  result : CType
  args : List CallbackArg

/-- One raw argument of a callback. -/
structure CallbackArg where
  type : CType
  ownership : Ownership

end

deriving instance Repr for CType, Callback, CallbackArg

instance : Inhabited CType := ⟨.context⟩

namespace CType

/-- The type `int`. -/
def int : CType :=
  .integer "int"

/-- The C name of the object type, if this is a handle. -/
def handleName? : CType → Option String
  | .handle name => some name
  | _ => none

/-- The signature, if this is a callback. -/
def callback? : CType → Option Callback
  | .callback signature => some signature
  | _ => none

/-- Whether this is a handle; a context is none. -/
def isHandle : CType → Bool
  | .handle _ => true
  | _ => false

/-- Whether this is the library context. -/
def isContext : CType → Bool
  | .context => true
  | _ => false

/-- Whether this is a callback. -/
def isCallback : CType → Bool
  | .callback _ => true
  | _ => false

/-- Whether this is a user-data pointer. -/
def isUserData : CType → Bool
  | .userData => true
  | _ => false

end CType

/-! ## Descriptions for messages -/

mutual

/-- The type as messages name it. -/
def CType.describe : CType → String
  | .handle name => name ++ " *"
  | .context => "context"
  | .bool => "bool"
  | .stat => "stat"
  | .enumeration name => name
  | .integer name => name
  | .string => "const char *"
  | .callback signature => signature.describe
  | .userData => "void *"
  | .other spelling => spelling

/-- The signature as messages name it. -/
def Callback.describe : Callback → String
  | ⟨result, args⟩ => result.describe ++ " (*)(" ++ ", ".intercalate (describeArgs args) ++ ")"

/-- The types of the arguments as messages name them. -/
def describeArgs : List CallbackArg → List String
  | [] => []
  | ⟨type, _⟩ :: rest => type.describe :: describeArgs rest

end

/-! ## Callback signatures -/

namespace Callback

/-- The signature without arguments that returns `result`. -/
def returning (result : CType) : Callback :=
  ⟨result, []⟩

/-- The signature with one more argument at the end. -/
def withArg (signature : Callback) (arg : CallbackArg) : Callback :=
  { signature with args := signature.args ++ [arg] }

/-- The signature with a user-data pointer at the end. -/
def withUserData (signature : Callback) : Callback :=
  signature.withArg ⟨.userData, .keep⟩

/-- Whether the last argument is a user-data pointer. -/
def endsInUserData (signature : Callback) : Bool :=
  match signature.args.getLast? with
  | some arg => arg.type.isUserData
  | none => false

/-- The arguments that a wrapped closure sees: all but a user-data pointer at the end. -/
def publicArgs (signature : Callback) : List CallbackArg :=
  if signature.endsInUserData then signature.args.dropLast else signature.args

theorem publicArgs_cons_cons (result : CType) (first second : CallbackArg)
    (rest : List CallbackArg) :
    (⟨result, first :: second :: rest⟩ : Callback).publicArgs =
      first :: (⟨result, second :: rest⟩ : Callback).publicArgs := by
  have hends : (⟨result, first :: second :: rest⟩ : Callback).endsInUserData =
      (⟨result, second :: rest⟩ : Callback).endsInUserData := by
    simp only [endsInUserData, List.getLast?_cons_cons]
  simp only [publicArgs, hends]
  split <;> rfl

end Callback

end HandleWrap
