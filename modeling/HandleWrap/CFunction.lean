import HandleWrap.CType

set_option autoImplicit false

/-! # C functions

The signature of one library function: its parameters in order, each with an ownership mark, and
its result, with the mark whether the caller receives ownership of it. -/

namespace HandleWrap

/-- One parameter of a C function. -/
structure Param where
  name : String
  type : CType
  ownership : Ownership := .keep
deriving Repr, Inhabited

namespace Param

/-- The parameter with the mark that the callee takes the object over. -/
def take (p : Param) : Param :=
  { p with ownership := .take }

/-- The parameter with the mark that the caller keeps the object. -/
def keep (p : Param) : Param :=
  { p with ownership := .keep }

/-- Whether the caller keeps the object. -/
def keeps (p : Param) : Bool :=
  p.ownership == .keep

end Param

/-- The signature of a C function. -/
structure CFunction where
  name : String
  returnType : CType
  /-- Whether the caller receives ownership of the result. -/
  givesResult : Bool := false
  params : List Param := []
deriving Repr, Inhabited

namespace CFunction

/-- The function of that name without parameters that returns an `int`. -/
def named (name : String) : CFunction where
  name := name
  returnType := .int

/-- The function with one more parameter at the end. -/
def withParam (f : CFunction) (p : Param) : CFunction :=
  { f with params := f.params ++ [p] }

/-- The function with that result; ownership of the result stays as it was. -/
def returning (f : CFunction) (type : CType) : CFunction :=
  { f with returnType := type }

/-- The function with that result, owned by the caller. -/
def giving (f : CFunction) (type : CType) : CFunction :=
  { f with returnType := type, givesResult := true }

/-- The callback parameters in order, with their signatures. -/
def callbacks (f : CFunction) : List (Param × Callback) :=
  f.params.filterMap fun p => p.type.callback?.map fun signature => (p, signature)

/-- Whether a parameter is a callback. -/
def hasCallback (f : CFunction) : Bool :=
  f.params.any (·.type.isCallback)

/-- The first parameter. -/
def firstParam? (f : CFunction) : Option Param :=
  f.params.head?

end CFunction

/-- How a function is exposed on its class. -/
inductive MethodKind where
  /-- Fills the handle of a new object. -/
  | constructor
  /-- Belongs to the class; every parameter is exposed. -/
  | staticMethod
  /-- Belongs to an object, which the first parameter binds. -/
  | instanceMethod
deriving DecidableEq, Repr, Inhabited

namespace MethodKind

/-- Whether the first parameter is the object that the method is called on. -/
def hasReceiver : MethodKind → Bool
  | instanceMethod => true
  | _ => false

end MethodKind

end HandleWrap
