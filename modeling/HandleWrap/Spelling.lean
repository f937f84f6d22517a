import HandleWrap.GenerationError
import HandleWrap.Settings

set_option autoImplicit false

/-! # Spellings of types

How a C type is written on either side of the boundary: `CType.cpp` is its C++ counterpart in the
wrapper classes, `CType.inC` what stands in code that faces the library. A user-data pointer and a
type of unknown shape have no C++ counterpart; a callback has no spelling in C by itself. -/

namespace HandleWrap

namespace Settings

/-- The wrapper class of a C object type, such as `isl::set`. -/
def handleType (s : Settings) (name : String) : String :=
  s.qualified (s.stripped name)

/-- The unqualified C++ name of a class. -/
def className (s : Settings) (c : ObjectClass) : String :=
  s.stripped c.key

/-- The unqualified C++ name of the class that owns the handle of `c`. -/
def baseClassName (s : Settings) (c : ObjectClass) : String :=
  s.stripped c.name

/-- An enumeration's spelling with the leftmost C prefix replaced by the namespace. -/
def enumType (s : Settings) (name : String) : String :=
  String.ofList <|
    Text.replaceLeftmost s.cPrefix.toList (s.targetNamespace ++ "::").toList name.toList

theorem mem_enumType {s : Settings} {name : String} {c : Char}
    (hc : c ∈ (s.enumType name).toList) :
    c ∈ (s.targetNamespace ++ "::").toList ∨ c ∈ name.toList := by
  rw [enumType, String.toList_ofList] at hc
  exact Text.mem_replaceLeftmost hc

/-- The C spelling of a pointer to the library context. -/
def rawContext (s : Settings) : String :=
  s.cName "ctx" ++ " *"

end Settings

/-! ## In C++ -/

mutual

/-- The C++ counterpart of a C type. -/
def CType.cpp (s : Settings) : CType → Except GenerationError String
  | .handle name => .ok (s.handleType name)
  | .context => .ok (if s.extensions then s.qualified "ctx" else s.rawContext)
  | .bool => .ok s.boolType
  | .stat => .ok s.statType
  | .enumeration name => .ok (if s.extensions then s.enumType name else name)
  | .integer name => .ok name
  | .string => .ok "std::string"
  | .callback signature => signature.cpp s
  | .userData => .error (.unsupportedType CType.userData.describe)
  | .other spelling => .error (.unsupportedType (CType.other spelling).describe)

/-- The function object that stands for a callback, without user data. -/
def Callback.cpp (s : Settings) : Callback → Except GenerationError String
  | ⟨result, args⟩ => do
    let result ← result.cpp s
    let args ← publicTypes s args
    return "std::function<" ++ result ++ "(" ++ ", ".intercalate args ++ ")>"

/-- The C++ counterparts of the arguments but for a user-data pointer at the end. -/
def publicTypes (s : Settings) : List CallbackArg → Except GenerationError (List String)
  | [] => .ok []
  | [⟨.userData, _⟩] => .ok []
  | ⟨type, _⟩ :: rest => do
    let name ← type.cpp s
    let names ← publicTypes s rest
    return name :: names

end

/-- The function object sees the public arguments of the signature. -/
theorem publicTypes_eq (s : Settings) (signature : Callback) :
    publicTypes s signature.args = signature.publicArgs.mapM (·.type.cpp s) := by
  obtain ⟨result, args⟩ := signature
  induction args with
  | nil => rfl
  | cons arg rest ih =>
    cases rest with
    | nil => obtain ⟨type, ownership⟩ := arg; cases type <;> rfl
    | cons next rest =>
      obtain ⟨type, ownership⟩ := arg
      rw [Callback.publicArgs_cons_cons, List.mapM_cons, ← ih, publicTypes]
      simp

/-! ## In C -/

/-- The spelling of a type on the C side. -/
def CType.inC (s : Settings) : CType → Except GenerationError String
  | .handle name => .ok (name ++ " *")
  | .context => .ok s.rawContext
  | .bool => .ok (s.cName "bool")
  | .stat => .ok (s.cName "stat")
  | .enumeration name => .ok name
  | .integer name => .ok name
  | .string => .ok "const char *"
  | .callback signature => .error (.unsupportedType signature.describe)
  | .userData => .ok "void *"
  | .other spelling => .ok spelling

/-- A variable of the given C or C++ type; a pointer's star stands next to the name. -/
def declared (type name : String) : String :=
  if type.toList.getLast? = some '*' then type ++ name else type ++ " " ++ name

/-- The C declaration of a variable. -/
def CType.declaredInC (s : Settings) (type : CType) (name : String) :
    Except GenerationError String := do
  return declared (← type.inC s) name

/-! ## Categories -/

/-- What a parameter or result means, apart from its spelling. -/
inductive Category where
  /-- An object whose ownership moves to the callee. -/
  | ownedHandle
  /-- An object that the callee only uses. -/
  | borrowedHandle
  | context
  | bool
  | stat
  | enumeration
  | integer
  | string
  | callback
deriving DecidableEq, Repr

namespace Category

/-- Whether this is an object. -/
def isHandle : Category → Bool
  | ownedHandle | borrowedHandle => true
  | _ => false

end Category

/-- The category of a type that has a C++ counterpart. -/
def CType.category? (ownership : Ownership) : CType → Option Category
  | .handle _ =>
    match ownership with
    | .take => some .ownedHandle
    | .keep => some .borrowedHandle
  | .context => some .context
  | .bool => some .bool
  | .stat => some .stat
  | .enumeration _ => some .enumeration
  | .integer _ => some .integer
  | .string => some .string
  | .callback _ => some .callback
  | .userData | .other _ => none

/-- The category of a type together with its C++ counterpart. -/
def CType.classify (s : Settings) (type : CType) (ownership : Ownership) :
    Except GenerationError (Category × String) := do
  let name ← type.cpp s
  match type.category? ownership with
  | some category => return (category, name)
  | none => throw (.unsupportedType type.describe)

end HandleWrap
