import HandleWrap.Proofs.Adaptation
import HandleWrap.Proofs.Member

set_option autoImplicit false

/-! # How a callback is adapted

The adapter makes four lists from one signature, each by a walk of its own: the raw parameters of
the trampoline, the argument types of the function object, the expressions that the function object
is called with, and, for the pointer to the holder, the position of the last raw parameter.
`locals_aligned` says that they line up position by position (`Adapter.Aligned`), and that the one
call of the function object stands where nothing that it throws gets past the trampoline
(`CallsOnce`). -/

namespace HandleWrap

/-! ## The expressions for the function object -/

/-- `HandsOver s arg raw expr`: for an argument `arg` that comes in as `raw`, the function object is
    handed `expr`. -/
inductive HandsOver (s : Settings) (arg : CallbackArg) (raw : String) : String → Prop where
  /-- An object that the callee takes over is adopted. -/
  | adopted {object : String} (htype : arg.type = .handle object) (htake : arg.ownership = .take) :
      HandsOver s arg raw (s.qualified "manage" ++ "(" ++ raw ++ ")")
  /-- An object that the caller keeps is copied. -/
  | copied {object : String} (htype : arg.type = .handle object) (hkeep : arg.ownership = .keep) :
      HandsOver s arg raw (s.qualified "manage_copy" ++ "(" ++ raw ++ ")")
  /-- With extensions a context is wrapped. -/
  | context (htype : arg.type = .context) (hs : s.extensions = true) :
      HandsOver s arg raw (s.qualified "ctx" ++ "(" ++ raw ++ ")")
  /-- With extensions an enumeration is converted. -/
  | enumeration {type : String} (htype : arg.type = .enumeration type)
      (hs : s.extensions = true) :
      HandsOver s arg raw ("static_cast<" ++ s.enumType type ++ ">(" ++ raw ++ ")")
  /-- Without extensions contexts and enumerations are as they are in C. -/
  | unconverted (htype : arg.type = .context ∨ ∃ type, arg.type = .enumeration type)
      (hs : s.extensions = false) : HandsOver s arg raw raw
  /-- Integers and strings are handed over as they come in. -/
  | plain (htype : arg.type = .string ∨ ∃ type, arg.type = .integer type) :
      HandsOver s arg raw raw

variable {s : Settings} {name : String} {signature : Callback}

/-- Each expression is made from the raw argument at its own position. -/
theorem handsOver_of_closureArg {i : Nat} {arg : CallbackArg} {expr : String}
    (h : Callback.closureArg s name i arg = .ok expr) : HandsOver s arg (rawArgName i) expr := by
  obtain ⟨type, ownership⟩ := arg
  cases type with
  | bool | stat | callback | userData | other => cases h
  | integer type =>
      obtain rfl := Except.ok.inj h
      exact .plain (.inr ⟨type, rfl⟩)
  | string =>
      obtain rfl := Except.ok.inj h
      exact .plain (.inl rfl)
  | handle object =>
      obtain rfl := Except.ok.inj h
      cases ownership with
      | take => exact .adopted rfl rfl
      | keep => exact .copied rfl rfl
  | context =>
      obtain rfl := Except.ok.inj h
      cases hs : s.extensions with
      | true => exact .context rfl hs
      | false => exact .unconverted (.inl rfl) hs
  | enumeration type =>
      obtain rfl := Except.ok.inj h
      cases hs : s.extensions with
      | true => exact .enumeration rfl hs
      | false => exact .unconverted (.inr ⟨type, rfl⟩) hs

/-! ## The call of the function object -/

/-- `Guarded s result opening success failure`: a callback that returns a `result` opens the line of
    its call with `opening`, returns `success` after it, and `failure` if something was thrown. -/
inductive Guarded (s : Settings) : CType → String → String → String → Prop where
  | stat : Guarded s .stat "      " (s.cName "stat_ok") (s.cName "stat_error")
  | bool : Guarded s .bool "      auto ret = " (s.boolToC "ret") (s.cName "bool_error")
  | handle (object : String) :
      Guarded s (.handle object) "      auto ret = " "ret.release()" "NULL"

/-- `Unguarded s result value`: a callback that returns a `result` returns `value` after a call that
    throws nothing. -/
inductive Unguarded (s : Settings) : CType → String → Prop where
  | stat : Unguarded s .stat (s.cName "stat" ++ "(ret)")
  | bool : Unguarded s .bool (s.booleanToC "ret")
  | handle (object : String) : Unguarded s (.handle object) "ret.release()"

/-- `CallsOnce s result call body`: the `body` of a callback that returns a `result` makes the one
    call `call`. -/
inductive CallsOnce (s : Settings) (result : CType) (call : String) : Code → Prop where
  /-- With exceptions on, in a `try` block: what is thrown is stored and reported as an error. -/
  | guarded {opening success failure : String} (hs : s.exceptions = true)
      (hresult : Guarded s result opening success failure) :
      CallsOnce s result call
        [r"    try {", opening ++ call ++ ";", "      return " ++ success ++ ";",
          r"    } catch (...) {", "      data->eptr = std::current_exception();",
          "      return " ++ failure ++ ";", r"    }"]
  | plain {value : String} (hs : s.exceptions = false) (hresult : Unguarded s result value) :
      CallsOnce s result call ["    auto ret = " ++ call ++ ";", "    return " ++ value ++ ";"]

/-- The body of a trampoline makes one call, in a `try` block exactly with exceptions on. -/
theorem callsOnce_of_outcome {trampoline : Trampoline} {result : CType}
    (h : Outcome.of? result = some trampoline.outcome) :
    CallsOnce s result trampoline.closureCall
      (if s.exceptions then trampoline.guardedLines s else trampoline.plainLines s) := by
  unfold Trampoline.guardedLines Trampoline.plainLines
  cases hs : s.exceptions with
  | true =>
      rw [if_pos rfl]
      cases result with
      | stat => rw [← Option.some.inj h]; exact .guarded hs .stat
      | bool => rw [← Option.some.inj h]; exact .guarded hs .bool
      | handle object => rw [← Option.some.inj h]; exact .guarded hs (.handle object)
      | _ => cases h
  | false =>
      rw [if_neg Bool.false_ne_true]
      cases result with
      | stat => rw [← Option.some.inj h]; exact .plain hs .stat
      | bool => rw [← Option.some.inj h]; exact .plain hs .bool
      | handle object => rw [← Option.some.inj h]; exact .plain hs (.handle object)
      | _ => cases h

/-! ## Alignment -/

/-- The texts that an adapter makes from a signature. -/
structure Adapter where
  /-- The type of the function object. -/
  functionType : String
  /-- The declarations of the raw parameters. -/
  params : List String
  /-- The raw result type. -/
  result : String
  /-- What the function object is called with. -/
  exprs : List String

/-- The call of the function object. -/
def Adapter.call (a : Adapter) : String :=
  "(*data->func)(" ++ ", ".intercalate a.exprs ++ ")"

/-- Holder and trampoline of the callback parameter `name`, around the `body` of the trampoline. -/
def Adapter.lines (s : Settings) (name : String) (body : Code) (a : Adapter) : Code :=
  ["  struct " ++ name ++ r"_data {",
    "    const " ++ a.functionType ++ " *func;"] ++
  (if s.exceptions then ["    std::exception_ptr eptr;"] else []) ++
  [r"  } " ++ name ++ r"_data = { &" ++ name ++ r" };",
    "  auto " ++ name ++ "_lambda = [](" ++ ", ".intercalate a.params ++ ") -> " ++ a.result ++
      r" {",
    "    auto *data = static_cast<struct " ++ name ++ "_data *>(arg_" ++ toString a.exprs.length ++
      ");"] ++
  body ++ [r"  };"]

/-- The texts line up with a signature whose arguments are `seen` and user data behind them. -/
structure Adapter.Aligned (s : Settings) (signature : Callback) (seen : List CallbackArg)
    (a : Adapter) : Prop where
  /-- The function object takes the seen arguments, translated, in order. -/
  functionType : ∃ result types, signature.result.cpp s = .ok result ∧
    List.Forall₂ (fun (arg : CallbackArg) type => arg.type.cpp s = .ok type) seen types ∧
    a.functionType = "std::function<" ++ result ++ "(" ++ ", ".intercalate types ++ ")>"
  length_params : a.params.length = seen.length + 1
  /-- Every argument is declared in its C spelling, under the name of its position. -/
  params : ∀ (i : Nat) (arg : CallbackArg), signature.args[i]? = some arg →
    ∃ type, arg.type.inC s = .ok type ∧ a.params[i]? = some (declared type ("arg_" ++ toString i))
  userData : a.params[seen.length]? = some ("void *arg_" ++ toString seen.length)
  result : signature.result.inC s = .ok a.result
  length_exprs : a.exprs.length = seen.length
  /-- Every argument that is seen is handed over at its position. -/
  exprs : ∀ (i : Nat) (arg : CallbackArg), seen[i]? = some arg →
    ∃ expr, a.exprs[i]? = some expr ∧ HandsOver s arg ("arg_" ++ toString i) expr

/-- The texts that a trampoline and the type of its function object make up. -/
def Trampoline.adapter (trampoline : Trampoline) (functionType : String) : Adapter where
  functionType
  params := trampoline.params
  result := trampoline.result
  exprs := trampoline.closureArgs

/-- What is made from each argument with its position stands at that position. -/
theorem TrampolineOf.aligned {trampoline : Trampoline} {functionType : String} {data : CallbackArg}
    (h : TrampolineOf s name signature trampoline) (hcpp : signature.cpp s = .ok functionType)
    (hdata : data.type = .userData) (hargs : signature.args = signature.publicArgs ++ [data]) :
    (trampoline.adapter functionType).Aligned s signature signature.publicArgs := by
  have hparams : ∀ (i : Nat) (arg : CallbackArg), signature.args[i]? = some arg →
      ∃ type, arg.type.inC s = .ok type ∧
        trampoline.params[i]? = some (declared type ("arg_" ++ toString i)) := fun i arg harg => by
    obtain ⟨text, htext, hdeclared⟩ := exists_at_of_forall₂_zipIdx h.params harg
    obtain ⟨type, htype, rfl⟩ := declaredInC_eq_ok_iff.1 hdeclared
    rw [Nat.zero_add] at htext
    exact ⟨type, htype, htext⟩
  -- what the adapter takes for the last raw parameter is the one behind all that are seen
  have hlast : signature.args[signature.publicArgs.length]? = some data := by
    rw [hargs]
    exact List.getElem?_concat_length
  refine ⟨Callback.cpp_eq_ok_iff.1 hcpp, ?_, hparams, ?_, h.result, ?_, fun i arg harg => ?_⟩
  · have hlength := h.params.length_eq
    rw [List.length_zipIdx, hargs, List.length_append, List.length_singleton] at hlength
    exact hlength.symm
  · obtain ⟨type, htype, htext⟩ := hparams _ _ hlast
    rw [hdata] at htype
    obtain rfl := Except.ok.inj htype
    exact htext
  · have hlength := h.closureArgs.length_eq
    rw [List.length_zipIdx] at hlength
    exact hlength.symm
  · obtain ⟨expr, hexpr, hclosureArg⟩ := exists_at_of_forall₂_zipIdx h.closureArgs harg
    rw [Nat.zero_add] at hclosureArg
    exact ⟨expr, hexpr, handsOver_of_closureArg hclosureArg⟩

/-- A callback is a parameter of the type of its function object, whatever its mark is. -/
theorem declaration_callback {functionType : String} (hcpp : signature.cpp s = .ok functionType)
    (ownership : Ownership) :
    (⟨name, .callback signature, ownership⟩ : Param).declaration s =
      .ok ("const " ++ functionType ++ " &" ++ name) :=
  declaration_eq_ok_iff.2 ⟨nofun, functionType, hcpp, rfl⟩

/-- Holder and trampoline are put together from those texts. -/
theorem TrampolineOf.locals_eq {trampoline : Trampoline} {functionType : String}
    (h : TrampolineOf s name signature trampoline)
    (hlength : trampoline.params.length = trampoline.closureArgs.length + 1) :
    ["  struct " ++ holderName name ++ r" {", "    const " ++ functionType ++ " *func;"] ++
        (if s.exceptions then ["    std::exception_ptr eptr;"] else []) ++
        [r"  } " ++ holderName name ++ r" = { &" ++ name ++ r" };"] ++ trampoline.lines s =
      (trampoline.adapter functionType).lines s name
        (if s.exceptions then trampoline.guardedLines s else trampoline.plainLines s) := by
  have hlast : trampoline.params.length - 1 = trampoline.closureArgs.length := by
    rw [hlength, Nat.add_sub_cancel]
  simp only [Trampoline.lines, Adapter.lines, Trampoline.adapter, holderName, trampolineName,
    rawArgName, h.parameter, hlast, List.append_assoc, List.cons_append, List.nil_append,
    String.append_assoc]
  rfl

/-- **Holder, trampoline and function object fit together:** a callback that can be adapted ends in
    user data; its trampoline has one raw parameter for each argument and finds the holder through
    the last of them; and the function object is called once, with one expression for each of the
    others, made from the raw argument at the same position. The holder points to what the wrapper
    has as its parameter. -/
theorem locals_aligned {code : Code} (h : signature.locals s name = .ok code) :
    ∃ seen data adapter body, signature.args = seen ++ [data] ∧ data.type = .userData ∧
      Adapter.Aligned s signature seen adapter ∧
      (∀ ownership, (⟨name, .callback signature, ownership⟩ : Param).declaration s =
        .ok ("const " ++ adapter.functionType ++ " &" ++ name)) ∧
      CallsOnce s signature.result adapter.call body ∧ code = adapter.lines s name body := by
  obtain ⟨holder, trampoline, hholder, htrampoline, rfl⟩ := locals_eq_ok_iff.1 h
  obtain ⟨functionType, hcpp, rfl⟩ := holder_eq_ok_iff.1 hholder
  have hof := trampoline_eq_ok_iff.1 htrampoline
  obtain ⟨data, hdata, hargs⟩ := Callback.args_of_endsInUserData hof.endsInUserData
  have hdata := isUserData_eq_true_iff.1 hdata
  have haligned := hof.aligned hcpp hdata hargs
  have hlength : trampoline.params.length = trampoline.closureArgs.length + 1 :=
    haligned.length_params.trans (congrArg (· + 1) haligned.length_exprs.symm)
  exact ⟨signature.publicArgs, data, trampoline.adapter functionType, _, hargs, hdata, haligned,
    declaration_callback hcpp, callsOnce_of_outcome hof.outcome, hof.locals_eq hlength⟩

/-- The callback of the method `foreachMap`. -/
def mapVisitor : Callback where
  result := .stat
  args := [⟨.handle "isl_map", .take⟩, ⟨.userData, .keep⟩]

theorem locals_aligned_mapVisitor :
    ∃ code, mapVisitor.locals .standard "fn" = .ok code ∧
      ∃ seen data adapter body, mapVisitor.args = seen ++ [data] ∧ data.type = .userData ∧
        Adapter.Aligned .standard mapVisitor seen adapter ∧
        (∀ ownership, Param.declaration .standard ⟨"fn", .callback mapVisitor, ownership⟩ =
          .ok ("const " ++ adapter.functionType ++ " &" ++ "fn")) ∧
        CallsOnce .standard mapVisitor.result adapter.call body ∧
        code = adapter.lines .standard "fn" body :=
  ⟨_, rfl, locals_aligned rfl⟩

end HandleWrap
