import HandleWrap.Callback
import HandleWrap.Proofs.ParameterPassing

set_option autoImplicit false

/-! # Callbacks that can be adapted

Which callbacks get a holder and a trampoline. The adapter looks at a signature in five places: the
type of the function object, the raw parameters, the raw result, the converted arguments and the
outcome. Together they accept a signature exactly if it ends in user data and is adaptable
(`succeeds_locals_iff`): its result tells success from failure, and every argument that the closure
sees is an object, a context or a plain value. -/

namespace HandleWrap

/-- A type that a raw callback argument can have for the closure to see it. -/
def CType.reachesClosure : CType → Bool
  | .handle _ | .context | .enumeration _ | .integer _ | .string => true
  | _ => false

/-- A type whose raw values tell a failure; a callback has to return one. -/
def CType.tellsFailure : CType → Bool
  | .stat | .bool | .handle _ => true
  | _ => false

/-- A callback that a closure can stand for. -/
structure Callback.Adaptable (signature : Callback) : Prop where
  result : signature.result.tellsFailure = true
  args : ∀ arg ∈ signature.publicArgs, arg.type.reachesClosure = true

/-! ## What adaptable types are -/

theorem CType.translatable_of_reachesClosure {type : CType} (h : type.reachesClosure = true) :
    type.Translatable := by
  cases type with
  | bool | stat | callback | userData | other => cases h
  | _ => constructor

theorem CType.translatable_of_tellsFailure {type : CType} (h : type.tellsFailure = true) :
    type.Translatable := by
  cases type with
  | handle | bool | stat => constructor
  | _ => cases h

theorem CType.isCallback_of_reachesClosure {type : CType} (h : type.reachesClosure = true) :
    type.isCallback = false := by
  cases type with
  | callback signature => cases h
  | _ => rfl

theorem CType.isCallback_of_tellsFailure {type : CType} (h : type.tellsFailure = true) :
    type.isCallback = false := by
  cases type with
  | callback signature => cases h
  | _ => rfl

/-- A function object can be written for every adaptable callback. -/
theorem Callback.Adaptable.translatable {signature : Callback} (h : signature.Adaptable) :
    (CType.callback signature).Translatable :=
  .callback (CType.translatable_of_tellsFailure h.result) fun arg harg =>
    CType.translatable_of_reachesClosure (h.args arg harg)

/-- A signature that ends in user data: what the closure sees, and the user data. -/
theorem Callback.args_of_endsInUserData {signature : Callback}
    (hends : signature.endsInUserData = true) :
    ∃ arg, arg.type.isUserData = true ∧ signature.args = signature.publicArgs ++ [arg] := by
  have hpublic : signature.publicArgs = signature.args.dropLast := if_pos hends
  rw [Callback.endsInUserData] at hends
  cases hlast : signature.args.getLast? with
  | none => rw [hlast] at hends; cases hends
  | some arg =>
      rw [hlast] at hends
      refine ⟨arg, hends, ?_⟩
      rw [hpublic]
      exact (List.dropLast_append_getLast? arg hlast).symm

/-- No raw argument of an adaptable callback is itself a callback. -/
theorem Callback.Adaptable.isCallback_of_mem {signature : Callback} (h : signature.Adaptable)
    (hends : signature.endsInUserData = true) {arg : CallbackArg} (harg : arg ∈ signature.args) :
    arg.type.isCallback = false := by
  obtain ⟨data, hdata, hargs⟩ := Callback.args_of_endsInUserData hends
  rw [hargs] at harg
  rcases List.mem_append.1 harg with harg | harg
  · exact CType.isCallback_of_reachesClosure (h.args arg harg)
  · obtain rfl := List.mem_singleton.1 harg
    cases htype : arg.type with
    | callback signature => rw [htype] at hdata; cases hdata
    | _ => rfl

/-! ## The places where the adapter looks -/

theorem succeeds_rawParams_iff (s : Settings) (name : String) (signature : Callback) :
    Succeeds (signature.rawParams s name) ↔ signature.endsInUserData = true ∧
      ∀ arg ∈ signature.args, arg.type.isCallback = false := by
  unfold Callback.rawParams
  split
  · next hends =>
      rw [and_iff_right hends]
      exact succeeds_mapM_zipIdx_iff fun arg i => succeeds_declaredInC_iff s arg.type (rawArgName i)
  · next hends => exact iff_of_false (not_succeeds_error _) fun h => hends h.1

theorem succeeds_closureArg_iff (s : Settings) (name : String) (i : Nat) (arg : CallbackArg) :
    Succeeds (Callback.closureArg s name i arg) ↔ arg.type.reachesClosure = true := by
  unfold Callback.closureArg
  cases arg.type with
  | bool | stat | callback | userData | other =>
      exact iff_of_false (not_succeeds_error _) (by simp [CType.reachesClosure])
  | _ => exact iff_of_true ⟨_, rfl⟩ rfl

theorem succeeds_closureArgs_iff (s : Settings) (name : String) (signature : Callback) :
    Succeeds (signature.closureArgs s name) ↔
      ∀ arg ∈ signature.publicArgs, arg.type.reachesClosure = true :=
  succeeds_mapM_zipIdx_iff fun arg i => succeeds_closureArg_iff s name i arg

theorem succeeds_holder_iff (s : Settings) (name : String) (signature : Callback) :
    Succeeds (signature.holder s name) ↔ (CType.callback signature).Translatable :=
  succeeds_bind_pure_iff.trans (succeeds_cpp_iff s (.callback signature))

theorem Outcome.of?_ne_none_iff {type : CType} :
    Outcome.of? type ≠ none ↔ type.tellsFailure = true := by
  cases type <;> simp [Outcome.of?, CType.tellsFailure]

/-- A trampoline needs all raw parameters, the raw result, the closure's arguments and an
    outcome. -/
theorem succeeds_trampoline_iff (s : Settings) (name : String) (signature : Callback) :
    Succeeds (signature.trampoline s name) ↔ Succeeds (signature.rawParams s name) ∧
      Succeeds (signature.result.inC s) ∧ Succeeds (signature.closureArgs s name) ∧
      signature.result.tellsFailure = true := by
  unfold Callback.trampoline
  refine succeeds_bind_iff fun params _ => succeeds_bind_iff fun result _ =>
    succeeds_bind_iff fun closureArgs _ => ?_
  rw [← Outcome.of?_ne_none_iff]
  cases Outcome.of? signature.result with
  | none => simp
  | some outcome => simp

/-- **Holder and trampoline exist exactly for the adaptable callbacks that end in user data.** -/
theorem succeeds_locals_iff (s : Settings) (name : String) (signature : Callback) :
    Succeeds (signature.locals s name) ↔
      signature.endsInUserData = true ∧ signature.Adaptable := by
  have hparts : Succeeds (signature.locals s name) ↔
      Succeeds (signature.holder s name) ∧ Succeeds (signature.trampoline s name) :=
    succeeds_bind_iff fun _ _ => succeeds_bind_pure_iff
  rw [hparts, succeeds_holder_iff, succeeds_trampoline_iff, succeeds_rawParams_iff,
    succeeds_inC_iff, succeeds_closureArgs_iff]
  constructor
  · rintro ⟨_, ⟨hends, _⟩, _, hargs, hresult⟩
    exact ⟨hends, hresult, hargs⟩
  · rintro ⟨hends, h⟩
    exact ⟨h.translatable, ⟨hends, fun arg harg => h.isCallback_of_mem hends harg⟩,
      CType.isCallback_of_tellsFailure h.result, h.args, h.result⟩

/-! ## What holder and trampoline are made of -/

variable {s : Settings} {name : String} {signature : Callback}

theorem holder_eq_ok_iff {code : Code} :
    signature.holder s name = .ok code ↔ ∃ type, signature.cpp s = .ok type ∧
      code = ["  struct " ++ holderName name ++ r" {", "    const " ++ type ++ " *func;"] ++
        (if s.exceptions then ["    std::exception_ptr eptr;"] else []) ++
        [r"  } " ++ holderName name ++ r" = { &" ++ name ++ r" };"] := by
  rw [Callback.holder, bind_pure_eq_ok_iff]

/-- How a trampoline is made. -/
structure TrampolineOf (s : Settings) (name : String) (signature : Callback)
    (trampoline : Trampoline) : Prop where
  parameter : trampoline.name = name
  endsInUserData : signature.endsInUserData = true
  params : List.Forall₂ (fun x text => x.1.type.declaredInC s (rawArgName x.2) = .ok text)
    signature.args.zipIdx trampoline.params
  result : signature.result.inC s = .ok trampoline.result
  closureArgs : List.Forall₂ (fun x text => Callback.closureArg s name x.2 x.1 = .ok text)
    signature.publicArgs.zipIdx trampoline.closureArgs
  outcome : Outcome.of? signature.result = some trampoline.outcome

theorem rawParams_eq_ok_iff {params : List String} :
    signature.rawParams s name = .ok params ↔ signature.endsInUserData = true ∧
      List.Forall₂ (fun x text => x.1.type.declaredInC s (rawArgName x.2) = .ok text)
        signature.args.zipIdx params := by
  unfold Callback.rawParams
  split
  · next hends => rw [and_iff_right hends, ← mapM_eq_ok_iff]
  · next hends => exact iff_of_false nofun fun h => hends h.1

/-- **What a trampoline is:** each of its texts is made from the signature by itself. -/
theorem trampoline_eq_ok_iff {trampoline : Trampoline} :
    signature.trampoline s name = .ok trampoline ↔ TrampolineOf s name signature trampoline := by
  unfold Callback.trampoline
  constructor
  · intro h
    obtain ⟨params, hparams, h⟩ := bind_eq_ok_iff.1 h
    obtain ⟨result, hresult, h⟩ := bind_eq_ok_iff.1 h
    obtain ⟨closureArgs, hclosureArgs, h⟩ := bind_eq_ok_iff.1 h
    obtain ⟨hends, hparams⟩ := rawParams_eq_ok_iff.1 hparams
    split at h
    · next outcome houtcome =>
        obtain rfl := pure_eq_ok_iff.1 h
        exact ⟨rfl, hends, hparams, hresult, mapM_eq_ok_iff.1 hclosureArgs, houtcome⟩
    · cases h
  · rintro ⟨rfl, hends, hparams, hresult, hclosureArgs, houtcome⟩
    refine bind_eq_ok_iff.2 ⟨trampoline.params, rawParams_eq_ok_iff.2 ⟨hends, hparams⟩, ?_⟩
    refine bind_eq_ok_iff.2 ⟨trampoline.result, hresult, ?_⟩
    refine bind_eq_ok_iff.2 ⟨trampoline.closureArgs, mapM_eq_ok_iff.2 hclosureArgs, ?_⟩
    rw [houtcome]
    rfl

/-- Holder and trampoline of a callback, one behind the other. -/
theorem locals_eq_ok_iff {code : Code} :
    signature.locals s name = .ok code ↔ ∃ holder trampoline,
      signature.holder s name = .ok holder ∧ signature.trampoline s name = .ok trampoline ∧
      code = holder ++ trampoline.lines s := by
  rw [Callback.locals, bind_eq_ok_iff]
  refine exists_congr fun holder => ?_
  rw [bind_pure_eq_ok_iff, exists_and_left]

end HandleWrap
