import HandleWrap.Proofs.Member

set_option autoImplicit false

/-! # How failures are reported

With exceptions on a body goes through seven phases. Three of them look at the parameters and the
result type apart from each other: the null tests, the context that is made ready, and the check of
the raw result. `definition_protocol` puts them together: whatever is thrown after the call is
thrown to the context that was made ready before it, and that context is alive there
(`LiveContext`). -/

namespace HandleWrap

variable {s : Settings} {c : ObjectClass} {m : Member} {f : CFunction} {kind : MethodKind}

/-! ## Null tests -/

/-- The code of a body, phase by phase. -/
structure Phases where
  nullTest : Code
  /-- Makes a context ready that failures are reported to. -/
  scope : Code
  /-- The locals of each callback. -/
  locals : List Code
  call : String
  /-- For each callback, throws again what it has thrown. -/
  rethrows : List Code
  failureCheck : Code
  result : Code

/-- The phases in order. -/
def Phases.lines (phases : Phases) : Code :=
  phases.nullTest ++ phases.scope ++ phases.locals.flatten ++ [phases.call] ++
    phases.rethrows.flatten ++ phases.failureCheck ++ phases.result

/-- The phases of a body. -/
def Body.phases (s : Settings) (b : Body) : Phases where
  nullTest := nullCheckLines s b.nullTests
  scope := b.context.elim [] (ErrorContext.scopeLines s)
  locals := b.callbackLocals
  call := b.callLine
  rethrows := b.rethrows.map rethrowLines
  failureCheck := failureLines b.failure
  result := b.result

/-- The check of the raw result that reports to the context `expr`. -/
def failureCheckLines (f : CFunction) (expr : String) : Code :=
  match f.returnType with
  | .stat | .bool =>
    ["  if (res < 0)", "    throw exception::create_from_last_error(" ++ expr ++ ");"]
  | .handle _ =>
    ["  if (!res)", "    throw exception::create_from_last_error(" ++ expr ++ ");"]
  | _ => []

/-- The check of a context is the one that the result type asks for. -/
theorem failureLines_eq (f : CFunction) (expr : String) :
    Body.failureLines (f.failureTest?.map fun test => ⟨test, expr⟩) = failureCheckLines f expr := by
  unfold CFunction.failureTest? failureCheckLines
  cases f.returnType <;> rfl

end HandleWrap
