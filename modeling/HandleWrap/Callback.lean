import HandleWrap.Passing
import HandleWrap.Text.Code

set_option autoImplicit false

/-! # Adapting callbacks

A C function that takes a callback and a user-data pointer is wrapped with a function object. Every
call sets up two locals: a *holder* that points to the function object (and has room for an
exception that escapes from it), and a *trampoline*, a function with the raw signature that finds
the holder through the user-data pointer and calls the function object on converted arguments.
With exceptions on the call stands in a `try` block, since nothing may be thrown through C. -/

namespace HandleWrap

/-- What the result of a callback tells the library. -/
inductive Outcome where
  /-- Success or error. -/
  | stat
  /-- True, false or error. -/
  | bool
  /-- A new object, or none in case of an error. -/
  | object
deriving DecidableEq, Repr

namespace Outcome

/-- The outcome that a result type stands for, if callbacks may return it. -/
def of? : CType → Option Outcome
  | .stat => some stat
  | .bool => some bool
  | .handle _ => some object
  | _ => none

/-- The C value for a call that came back, with its result in `ret`. -/
def success (s : Settings) : Outcome → String
  | stat => s.cName "stat_ok"
  | bool => s.boolToC "ret"
  | object => "ret.release()"

/-- The C value for a call that threw. -/
def failure (s : Settings) : Outcome → String
  | stat => s.cName "stat_error"
  | bool => s.cName "bool_error"
  | object => "NULL"

/-- The C value for the result `ret` of a function object that does not throw. -/
def converted (s : Settings) : Outcome → String
  | stat => s.cName "stat" ++ "(ret)"
  | bool => s.booleanToC "ret"
  | object => "ret.release()"

end Outcome

/-- The name of the trampoline's raw parameter at position `i`. -/
def rawArgName (i : Nat) : String :=
  "arg_" ++ toString i

/-- The function with the raw signature that calls the function object. -/
structure Trampoline where
  /-- The callback parameter that it stands for. -/
  name : String
  /-- The declarations of the raw parameters, user data last. -/
  params : List String
  /-- The C spelling of the result type. -/
  result : String
  /-- The converted arguments of the function object. -/
  closureArgs : List String
  outcome : Outcome

/-- The call of the function object. -/
def closureCallText (args : List String) : String :=
  "(*data->func)(" ++ ", ".intercalate args ++ ")"

namespace Trampoline

/-- The call of the function object. -/
def closureCall (t : Trampoline) : String :=
  closureCallText t.closureArgs

/-- The body with exceptions on: one that escapes is stored and reported to C as an error. -/
def guardedLines (s : Settings) (t : Trampoline) : Code :=
  [r"    try {",
    (match t.outcome with
      | .stat => "      "
      | _ => "      auto ret = ") ++ t.closureCall ++ ";",
    "      return " ++ t.outcome.success s ++ ";",
    r"    } catch (...) {",
    "      data->eptr = std::current_exception();",
    "      return " ++ t.outcome.failure s ++ ";",
    r"    }"]

/-- The body with exceptions off. -/
def plainLines (s : Settings) (t : Trampoline) : Code :=
  ["    auto ret = " ++ t.closureCall ++ ";",
    "    return " ++ t.outcome.converted s ++ ";"]

/-- The definition of the trampoline. -/
def lines (s : Settings) (t : Trampoline) : Code :=
  ["  auto " ++ trampolineName t.name ++ " = [](" ++ ", ".intercalate t.params ++ ") -> " ++
      t.result ++ r" {",
    "    auto *data = static_cast<struct " ++ holderName t.name ++ " *>(" ++
      rawArgName (t.params.length - 1) ++ ");"] ++
  (if s.exceptions then t.guardedLines s else t.plainLines s) ++
  [r"  };"]

end Trampoline

namespace Callback

/-- The declarations of the raw parameters of the trampoline. -/
def rawParams (s : Settings) (name : String) (signature : Callback) :
    Except GenerationError (List String) :=
  if signature.endsInUserData then
    signature.args.zipIdx.mapM fun (arg, i) => arg.type.declaredInC s (rawArgName i)
  else
    throw (.malformedCallback name "last argument is not a user data pointer")

/-- The expression that converts the raw argument at position `i` for the function object. -/
def closureArg (s : Settings) (name : String) (i : Nat) (arg : CallbackArg) :
    Except GenerationError String :=
  match arg.type with
  | .handle _ =>
    .ok (s.qualified (wrapFactory arg.ownership) ++ "(" ++ rawArgName i ++ ")")
  | .context =>
    .ok (if s.extensions then s.qualified "ctx" ++ "(" ++ rawArgName i ++ ")" else rawArgName i)
  | .enumeration type =>
    .ok (if s.extensions then "static_cast<" ++ s.enumType type ++ ">(" ++ rawArgName i ++ ")"
      else rawArgName i)
  | .integer _ | .string => .ok (rawArgName i)
  | type =>
    .error (.malformedCallback name ("cannot pass " ++ type.describe ++ " to the closure"))

/-- The arguments of the function object, in order. -/
def closureArgs (s : Settings) (name : String) (signature : Callback) :
    Except GenerationError (List String) :=
  signature.publicArgs.zipIdx.mapM fun (arg, i) => closureArg s name i arg

/-- The holder of the callback parameter `name`. -/
def holder (s : Settings) (name : String) (signature : Callback) :
    Except GenerationError Code := do
  let type ← signature.cpp s
  return ["  struct " ++ holderName name ++ r" {",
      "    const " ++ type ++ " *func;"] ++
    (if s.exceptions then ["    std::exception_ptr eptr;"] else []) ++
    [r"  } " ++ holderName name ++ r" = { &" ++ name ++ r" };"]

/-- The trampoline of the callback parameter `name`. -/
def trampoline (s : Settings) (name : String) (signature : Callback) :
    Except GenerationError Trampoline := do
  let params ← signature.rawParams s name
  let result ← signature.result.inC s
  let closureArgs ← signature.closureArgs s name
  match Outcome.of? signature.result with
  | some outcome => return { name, params, result, closureArgs, outcome }
  | none =>
    throw (.malformedCallback name
      ("unsupported return type " ++ signature.result.describe))

/-- Holder and trampoline of the callback parameter `name`. -/
def locals (s : Settings) (name : String) (signature : Callback) :
    Except GenerationError Code := do
  let holder ← signature.holder s name
  let trampoline ← signature.trampoline s name
  return holder ++ trampoline.lines s

end Callback

/-- Throws again what the function object of the callback parameter `name` has thrown. -/
def rethrowLines (name : String) : Code :=
  ["  if (" ++ holderName name ++ ".eptr)",
    "    std::rethrow_exception(" ++ holderName name ++ ".eptr);"]

/-- Holder and trampoline of a parameter that has to be a callback. -/
def Param.locals (s : Settings) (p : Param) : Except GenerationError Code :=
  match p.type with
  | .callback signature => signature.locals s p.name
  | _ => .error (.malformedCallback p.name "not a callback")

end HandleWrap
