import HandleWrap.Callback
import HandleWrap.ClassTable.Subclass

set_option autoImplicit false

/-! # Wrapper functions

How one C function becomes a constructor, static method or member function. The declaration and the
definition share one `Signature`, which hides the object that the method is called on and the
user-data parameters. The body goes through fixed phases (`Body`): null tests, the context that
failures are reported to, callback locals, the call, exceptions from callbacks, the failure check
and the conversion of the result. The phases that report failures exist only with exceptions on. -/

namespace HandleWrap

/-! ## Where failures are reported -/

/-- The context that a failure is reported to. -/
inductive ErrorContext where
  /-- That of the object that the method is called on. -/
  | receiver
  /-- A context parameter. -/
  | param (name : String)
  /-- That of an object parameter, saved on entry under the name `fresh`. -/
  | saved (object fresh : String)
deriving DecidableEq, Repr

namespace ErrorContext

/-- The expression for the context. -/
def expr : ErrorContext → String
  | receiver => "get_ctx()"
  | param name => name
  | saved _ fresh => fresh

/-- The statement that saves the context. -/
def captureLines : ErrorContext → Code
  | saved object fresh => ["  auto " ++ fresh ++ " = " ++ object ++ ".get_ctx();"]
  | _ => []

/-- Saves the context and keeps the library quiet about errors until the function returns. -/
def scopeLines (s : Settings) (c : ErrorContext) : Code :=
  c.captureLines ++
    ["  options_scoped_set_on_error saved_on_error(" ++ c.expr ++ ", " ++ s.onErrorContinue ++
      ");"]

end ErrorContext

namespace CFunction

/-- The name for a saved context: `ctx` if no parameter has that name. -/
def savedContextName (f : CFunction) : String :=
  if f.params.any (·.name == "ctx") then "saved_ctx" else "ctx"

/-- The context that failures are reported to, if there is one: that of the receiver, else a
    context in first place, else that of the first object, else a context anywhere. -/
def errorContext? (f : CFunction) (kind : MethodKind) : Option ErrorContext :=
  if kind.hasReceiver then some .receiver
  else
    ((f.firstParam?.filter (·.type.isContext)).map fun p => .param p.name).or <|
    ((f.params.find? (·.type.isHandle)).map fun p => .saved p.name f.savedContextName).or <|
    (f.params.find? (·.type.isContext)).map fun p => .param p.name

/-- The test that tells a failure from the raw result, if the result can tell. -/
def failureTest? (f : CFunction) : Option String :=
  match f.returnType with
  | .stat | .bool => some "res < 0"
  | .handle _ => some "!res"
  | _ => none

/-- The parameters with the place where each one comes from. -/
def sources (f : CFunction) (kind : MethodKind) : List (Source × Param) :=
  match f.params with
  | [] => []
  | first :: rest =>
    (if kind.hasReceiver then .receiver else .argument, first) :: rest.map (.argument, ·)

/-- The parameters of the wrapper: all but the receiver and user data. -/
def visibleParams (f : CFunction) (kind : MethodKind) : List Param :=
  (f.params.drop (if kind.hasReceiver then 1 else 0)).filter fun p => !p.type.isUserData

end CFunction

/-- A constructor with a single parameter converts implicitly if that is an object of a
    subclass. -/
def ClassTable.isImplicitConversion (t : ClassTable) (c : ObjectClass) (f : CFunction) : Bool :=
  match f.params with
  | [p] => p.type.handleName?.any fun sub => t.isSubclass sub c
  | _ => false

/-! ## Signatures -/

/-- The signature of a wrapper function. -/
structure Signature where
  /-- The result type; a constructor has none. -/
  result : Option String
  name : String
  /-- The declarations of the parameters. -/
  params : List String
  isConst : Bool
deriving Repr

/-- The text of a signature, with `scope` in front of the name. -/
def Signature.text (signature : Signature) (scope : String) : String :=
  (match signature.result with
    | some type => type ++ " "
    | none => "") ++
  scope ++ signature.name ++ "(" ++ ", ".intercalate signature.params ++ ")" ++
  (if signature.isConst then " const" else "")

namespace Settings

/-- The C++ result type of a function of the class `c`, and whether the result is narrowed to it:
    a view returns itself where its C type is returned. -/
def returnType (s : Settings) (c : ObjectClass) (f : CFunction) :
    Except GenerationError (String × Bool) := do
  let type ← f.returnType.cpp s
  if c.isTaggedView && type == s.handleType c.name then
    return (s.handleType c.key, true)
  return (type, false)

/-- The signature of the wrapper of `f` on the class `c`. -/
def signature (s : Settings) (c : ObjectClass) (m : Member) :
    Except GenerationError Signature := do
  let result ←
    match m.kind with
    | .constructor => pure none
    | _ => do
      let (type, _) ← s.returnType c m.function
      pure (some type)
  let params ← (m.function.visibleParams m.kind).mapM (Param.declaration s)
  let name :=
    match m.kind with
    | .constructor => s.className c
    | _ => s.renamed m.name
  return { result, name, params, isConst := m.kind.hasReceiver }

end Settings

/-- What stands in front of the signature in a declaration. -/
def ClassTable.qualifiers (t : ClassTable) (c : ObjectClass) (m : Member) : String :=
  match m.kind with
  | .staticMethod => "static inline "
  | .instanceMethod => "inline "
  | .constructor =>
    if t.isImplicitConversion c m.function then "inline /* implicit */ " else "inline explicit "

/-- The declaration of a member inside its class. -/
def memberDeclaration (s : Settings) (t : ClassTable) (c : ObjectClass) (m : Member) :
    Except GenerationError Code :=
  attributed m.function.name do
    let signature ← s.signature c m
    return ["  " ++ t.qualifiers c m ++ signature.text "" ++ ";"]

/-! ## Bodies -/

/-- The statement that throws because an object is null. -/
def throwNullInput (s : Settings) : Code :=
  ["    throw " ++ s.qualified "exception" ++ "::create(" ++ s.cName "error_invalid" ++ ",",
    "        \"NULL input\", __FILE__, __LINE__);"]

/-- The statement that throws the library's last error. -/
def throwLastError (context : String) : Code :=
  ["    throw exception::create_from_last_error(" ++ context ++ ");"]

/-- The check of the raw result. -/
structure FailureCheck where
  /-- The test that tells a failure. -/
  test : String
  /-- The context that the failure is reported to. -/
  context : String
deriving Repr

/-- The body of a wrapper function, phase by phase. -/
structure Body where
  /-- One test for each object that must not be null. -/
  nullTests : List String
  /-- The context that failures are reported to. -/
  context : Option ErrorContext
  /-- The locals of each callback parameter. -/
  callbackLocals : List Code
  callee : String
  /-- What is passed to the C function, in order. -/
  args : List String
  /-- The callback parameters that may have thrown. -/
  rethrows : List String
  failure : Option FailureCheck
  /-- What becomes of the raw result. -/
  result : Code
deriving Repr

namespace Body

/-- The null tests as one statement. -/
def nullCheckLines (s : Settings) (tests : List String) : Code :=
  if tests.isEmpty then []
  else ("  if (" ++ " || ".intercalate tests ++ ")") :: throwNullInput s

/-- The call of the C function. -/
def callLine (b : Body) : String :=
  "  auto res = " ++ b.callee ++ "(" ++ ", ".intercalate b.args ++ ");"

/-- The failure check as a statement. -/
def failureLines : Option FailureCheck → Code
  | none => []
  | some check => ("  if (" ++ check.test ++ ")") :: throwLastError check.context

/-- The statements of the body. -/
def lines (s : Settings) (b : Body) : Code :=
  nullCheckLines s b.nullTests ++
  (match b.context with
    | some context => context.scopeLines s
    | none => []) ++
  b.callbackLocals.flatten ++
  [b.callLine] ++
  b.rethrows.flatMap rethrowLines ++
  failureLines b.failure ++
  b.result

end Body

namespace CFunction

/-- One test for each object parameter; the receiver is tested through its pointer. -/
def nullTests (f : CFunction) (kind : MethodKind) : List String :=
  (f.sources kind).filterMap fun (source, p) =>
    match source with
    | .receiver => some "!ptr"
    | .argument => if p.type.isHandle then some (p.name ++ ".is_null()") else none

/-- What is passed to the C function, parameter by parameter. -/
def callArgs (s : Settings) (f : CFunction) (kind : MethodKind) :
    Except GenerationError (List String) := do
  let uses ← ((f.sources kind).filter fun (_, p) => !p.type.isUserData).mapM
    fun (source, p) => p.uses s source
  return uses.flatten

/-- Whether failures of the function have to be reported. -/
def needsContext (f : CFunction) (kind : MethodKind) : Bool :=
  kind == .constructor || f.failureTest?.isSome

end CFunction

/-- The conversion of `expr` to a C++ type. -/
def converted (type expr : String) : String :=
  if type.toList.all fun c => c.isAlphanum || c == '_' || c == ':' then
    type ++ "(" ++ expr ++ ")"
  else "static_cast<" ++ type ++ ">(" ++ expr ++ ")"

/-- What becomes of the raw result of a method with C++ result type `type`. -/
def resultLines (s : Settings) (f : CFunction) (type : String) (narrowed : Bool) : Code :=
  match f.returnType with
  | .handle _ =>
    if narrowed then ["  return manage(res).as<" ++ type ++ ">();"] else ["  return manage(res);"]
  | .stat => if s.exceptions then [] else ["  return " ++ type ++ "(res);"]
  | .string =>
    ["  std::string tmp(res);"] ++ (if f.givesResult then ["  free(res);"] else []) ++
      ["  return tmp;"]
  | .enumeration _ =>
    if s.extensions then ["  return static_cast<" ++ type ++ ">(res);"] else ["  return res;"]
  | .bool =>
    if !s.exceptions then ["  return manage(res);"]
    else if f.hasCallback then ["  return " ++ converted type "res" ++ ";"]
    else ["  return res;"]
  | _ =>
    if f.hasCallback then ["  return " ++ converted type "res" ++ ";"] else ["  return res;"]

/-- The body of the wrapper of a member of the class `c`. -/
def memberBody (s : Settings) (c : ObjectClass) (m : Member) : Except GenerationError Body := do
  let f := m.function
  let context := if s.exceptions then f.errorContext? m.kind else none
  if s.exceptions && context.isNone && f.needsContext m.kind then throw .missingContext
  let callbackLocals ← f.callbacks.mapM fun (p, signature) => signature.locals s p.name
  let args ← f.callArgs s m.kind
  let result ←
    match m.kind with
    | .constructor => pure ["  ptr = res;"]
    | _ => do
      let (type, narrowed) ← s.returnType c f
      pure (resultLines s f type narrowed)
  return {
    nullTests := if s.exceptions then f.nullTests m.kind else []
    context
    callbackLocals
    callee := f.name
    args
    rethrows := if s.exceptions then f.callbacks.map (·.1.name) else []
    failure := context.bind fun context =>
      f.failureTest?.map fun test => ⟨test, context.expr⟩
    result }

/-- The definition of a member outside its class. -/
def memberDefinition (s : Settings) (c : ObjectClass) (m : Member) :
    Except GenerationError Code :=
  attributed m.function.name do
    let signature ← s.signature c m
    let body ← memberBody s c m
    return [signature.text (s.className c ++ "::"), r"{"] ++ body.lines s ++ [r"}"]

end HandleWrap
