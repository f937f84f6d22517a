import HandleWrap.Proofs.CallAlignment
import Mathlib.Data.List.Nodup

set_option autoImplicit false

/-! # What is used after it was given away

The call of the C function gives the handles of some parameters away (`CFunction.Releases`), and the
check behind it names the context that a failure is reported to. The two are chosen apart from each
other: what is given away by the ownership marks, and the context by the types and the order of the
parameters. `reports_released_iff` says exactly when they meet (`CFunction.Misreports`): at a
context that is itself given away, and at a parameter that has the name under which a context is
reached. -/

namespace HandleWrap

variable {s : Settings} {c : ObjectClass} {m : Member} {f : CFunction} {kind : MethodKind}
  {p : Param}

/-! ## What is given away -/

/-- The call gives the handle of the parameter away. -/
def CFunction.Releases (s : Settings) (f : CFunction) (kind : MethodKind) (p : Param) : Prop :=
  ∃ source, (source, p) ∈ f.sources kind ∧ p.uses s source = .ok [p.name ++ ".release()"]

theorem length_of_uses_eq_release {source : Source} {expr : String}
    (h : p.uses s source = .ok [p.name ++ ".release()"]) (huse : p.uses s source = .ok [expr]) :
    expr.toList.length = p.name.toList.length + 10 := by
  have hexpr : expr = p.name ++ ".release()" :=
    List.singleton_inj.1 (Except.ok.inj (huse.symm.trans h))
  rw [hexpr, String.toList_append, List.length_append]
  rfl

/-- Nothing but an object is given away: all other expressions have another length. -/
theorem isObject_of_uses_eq_release {source : Source}
    (h : p.uses s source = .ok [p.name ++ ".release()"]) : p.isObject s = true := by
  by_contra hobject
  obtain ⟨name, type, ownership⟩ := p
  cases type with
  | handle object => exact hobject rfl
  | stat => cases h
  | userData => cases h
  | other spelling => cases h
  | callback signature => simp [Param.uses, callbackUses] at h
  | integer type => simpa using length_of_uses_eq_release h rfl
  | string => simpa using length_of_uses_eq_release h rfl
  | context =>
      have hs : s.extensions = false := Bool.eq_false_iff.2 hobject
      have huse : Param.uses s source ⟨name, .context, ownership⟩ = .ok [name] := by
        simp [Param.uses, hs]
      simpa using length_of_uses_eq_release h huse
  | enumeration type =>
      have hlength := length_of_uses_eq_release h rfl
      split at hlength
      · simp at hlength
        omega
      · simp at hlength
  | bool =>
      have hlength := length_of_uses_eq_release h rfl
      split at hlength
      · simp [Settings.boolToC, Settings.cName] at hlength
        omega
      · simp [Settings.booleanToC, Settings.cName] at hlength

/-- The object that a method is called on is never given away, and an argument is by its mark. -/
theorem uses_eq_release_iff {source : Source} :
    p.uses s source = .ok [p.name ++ ".release()"] ↔
      source = .argument ∧ p.isObject s = true ∧ p.ownership = .take := by
  constructor
  · intro h
    have hobject := isObject_of_uses_eq_release h
    have hlength := length_of_uses_eq_release h (uses_of_isObject hobject)
    cases source with
    | argument =>
        refine ⟨rfl, hobject, ?_⟩
        cases hownership : p.ownership with
        | take => rfl
        | keep => simp [handleUse_argument, hownership] at hlength
    | receiver =>
        cases hownership : p.ownership with
        | take => simp [handleUse, Access.of, Access.call, hownership] at hlength
        | keep => simp [handleUse, Access.of, Access.call, hownership] at hlength
  · rintro ⟨rfl, hobject, htake⟩
    rw [uses_of_isObject hobject, handleUse_argument, htake]

/-- All parameters but the receiver come from arguments. -/
theorem mem_sources_argument_iff :
    (.argument, p) ∈ f.sources kind ↔ p ∈ f.params.drop (if kind.hasReceiver then 1 else 0) := by
  cases hkind : kind.hasReceiver with
  | false => simp [sources_of_not_hasReceiver f hkind]
  | true =>
      cases hparams : f.params with
      | nil => simp [CFunction.sources, hparams]
      | cons first rest => simp [sources_of_hasReceiver hkind hparams]

/-- **The call gives away what the callee takes over,** among all objects but the receiver. -/
theorem releases_iff :
    f.Releases s kind p ↔ p ∈ f.params.drop (if kind.hasReceiver then 1 else 0) ∧
      p.isObject s = true ∧ p.ownership = .take := by
  unfold CFunction.Releases
  simp only [uses_eq_release_iff]
  constructor
  · rintro ⟨source, hmem, rfl, hobject, htake⟩
    exact ⟨mem_sources_argument_iff.1 hmem, hobject, htake⟩
  · rintro ⟨hmem, hobject, htake⟩
    exact ⟨.argument, mem_sources_argument_iff.2 hmem, rfl, hobject, htake⟩

theorem CFunction.Releases.mem_params (h : f.Releases s kind p) : p ∈ f.params :=
  List.mem_of_mem_drop (releases_iff.1 h).1

/-- What is given away is released among the arguments of the call. -/
theorem CFunction.Releases.mem_callArgs {args : List String} (h : f.Releases s kind p)
    (hargs : f.callArgs s kind = .ok args) : p.name ++ ".release()" ∈ args := by
  obtain ⟨exprs, huses, rfl⟩ := callArgs_eq_ok_iff.1 hargs
  obtain ⟨source, hmem, huse⟩ := h
  have hdata := (Param.plain_of_isObject (isObject_of_uses_eq_release huse)).2
  obtain ⟨parts, hparts, huse'⟩ := exists_mem_of_forall₂ huses
    (List.mem_filter.2 ⟨hmem, by simp [hdata]⟩)
  obtain rfl := Except.ok.inj (huse.symm.trans huse')
  exact List.mem_flatten_of_mem hparts (List.mem_singleton_self _)

/-! ## What is reported to -/

/-- `f.Misreports s kind`: failures are reported to something that the call has given away. -/
inductive CFunction.Misreports (s : Settings) (f : CFunction) (kind : MethodKind) : Prop where
  /-- The first context is given away, and it stands in first place or there is no object. -/
  | context {before after : List Param} {p : Param} (hkind : kind.hasReceiver = false)
      (hparams : f.params = before ++ p :: after) (hcontext : p.type.isContext = true)
      (htake : p.ownership = .take) (hs : s.extensions = true)
      (hbefore : ∀ q ∈ before, q.type.isContext = false)
      (hlead : before = [] ∨ ∀ q ∈ f.params, q.type.isHandle = false)
  /-- The context of an object is saved, and the name for it is that of a parameter. -/
  | saved {object named p : Param} (hkind : kind.hasReceiver = false)
      (hobject : object ∈ f.params) (hhandle : object.type.isHandle = true)
      (hlead : ∀ q, f.firstParam? = some q → q.type.isContext = false)
      (hnamed : named ∈ f.params) (hctx : named.name = "ctx") (hreleased : f.Releases s kind p)
      (hname : p.name = "saved_ctx")
  /-- A parameter is spelled like the context of the receiver. -/
  | receiver {p : Param} (hkind : kind.hasReceiver = true) (hreleased : f.Releases s kind p)
      (hname : p.name = "get_ctx()")

theorem savedContextName_of_mem (hp : p ∈ f.params) (hname : p.name = "ctx") :
    f.savedContextName = "saved_ctx" := by
  have hany : f.params.any (·.name == "ctx") = true :=
    List.any_eq_true.2 ⟨p, hp, beq_iff_eq.2 hname⟩
  rw [CFunction.savedContextName, if_pos hany]

/-- A saved context that has the name of a parameter is not called `ctx`. -/
theorem exists_ctx_of_savedContextName_eq (hp : p ∈ f.params)
    (hname : f.savedContextName = p.name) :
    (∃ q ∈ f.params, q.name = "ctx") ∧ p.name = "saved_ctx" := by
  by_cases hctx : ∃ q ∈ f.params, q.name = "ctx"
  · obtain ⟨q, hq, hqname⟩ := hctx
    exact ⟨⟨q, hq, hqname⟩, hname.symm.trans (savedContextName_of_mem hq hqname)⟩
  · have hany : ¬ f.params.any (·.name == "ctx") = true := by simpa using hctx
    rw [CFunction.savedContextName, if_neg hany] at hname
    exact absurd ⟨p, hp, hname.symm⟩ hctx

/-- Without a context in first place the context of an object is saved, if there is one. -/
theorem exists_reportsTo_saved (hkind : kind.hasReceiver = false)
    (hlead : ∀ q, f.firstParam? = some q → q.type.isContext = false) {object : Param}
    (hobject : object ∈ f.params) (hhandle : object.type.isHandle = true) :
    ∃ first : Param, f.ReportsTo kind (.saved first.name f.savedContextName) := by
  have hsome : (f.params.find? (·.type.isHandle)).isSome = true :=
    List.find?_isSome.2 ⟨object, hobject, hhandle⟩
  obtain ⟨first, hfirst⟩ := Option.isSome_iff_exists.1 hsome
  obtain ⟨hhandle, before, after, hparams, hbefore⟩ := List.find?_eq_some_iff_append.1 hfirst
  exact ⟨first, .saved hkind hparams hhandle (by simpa using hbefore) hlead⟩

theorem misreports_of_reportsTo (hnames : (f.params.map (·.name)).Nodup) {context : ErrorContext}
    (hcontext : f.ReportsTo kind context) (hreleased : f.Releases s kind p)
    (hname : context.expr = p.name) : f.Misreports s kind := by
  cases hcontext with
  | receiver hkind => exact .receiver hkind hreleased hname.symm
  | @param before after q hkind hparams hfirst hbefore hlead =>
      -- names are distinct, so the context is the parameter that is given away
      have hmem : q ∈ f.params := by simp [hparams]
      obtain rfl := List.inj_on_of_nodup_map hnames hmem hreleased.mem_params hname
      obtain ⟨_, hobject, htake⟩ := releases_iff.1 hreleased
      have hs : s.extensions = true := by
        simpa [Param.isObject, hfirst, CType.isHandle_of_isContext hfirst] using hobject
      exact .context hkind hparams hfirst htake hs hbefore hlead
  | @saved before after object hkind hparams hhandle _ hlead =>
      obtain ⟨⟨named, hnamed, hctx⟩, hsaved⟩ :=
        exists_ctx_of_savedContextName_eq hreleased.mem_params hname
      exact .saved hkind (by simp [hparams]) hhandle hlead hnamed hctx hreleased hsaved

theorem CFunction.Misreports.exists_reportsTo (h : f.Misreports s kind) :
    ∃ context p, f.ReportsTo kind context ∧ f.Releases s kind p ∧ context.expr = p.name := by
  cases h with
  | @context before after p hkind hparams hcontext htake hs hbefore hlead =>
      have hobject : p.isObject s = true := by simp [Param.isObject, hcontext, hs]
      have hreleased : f.Releases s kind p :=
        releases_iff.2 ⟨by simp [hkind, hparams], hobject, htake⟩
      exact ⟨_, p, .param hkind hparams hcontext hbefore hlead, hreleased, rfl⟩
  | saved hkind hobject hhandle hlead hnamed hctx hreleased hname =>
      obtain ⟨first, hreports⟩ := exists_reportsTo_saved hkind hlead hobject hhandle
      exact ⟨_, _, hreports, hreleased, (savedContextName_of_mem hnamed hctx).trans hname.symm⟩
  | receiver hkind hreleased hname => exact ⟨_, _, .receiver hkind, hreleased, hname.symm⟩

/-! ## The check behind the call -/

/-- The check behind the call is there for a result that tells a failure, and names the context that
    failures are reported to. -/
theorem BodyOf.exists_failure_iff {body : Body} (h : BodyOf s c m body) (hs : s.exceptions = true)
    (expr : String) :
    (∃ check, body.failure = some check ∧ check.context = expr) ↔
      m.function.returnType.tellsFailure = true ∧
        ∃ context, m.function.ReportsTo m.kind context ∧ context.expr = expr := by
  have hcontext : m.context? s = m.function.errorContext? m.kind := context?_of_exceptions hs
  have htest : m.function.returnType.tellsFailure = true ↔
      ∃ test, m.function.failureTest? = some test := by
    rw [← Option.ne_none_iff_exists', ne_eq, failureTest?_eq_none_iff, Bool.not_eq_false]
  simp only [h.failure, hcontext, htest, ← errorContext?_eq_some_iff]
  constructor
  · rintro ⟨check, hcheck, rfl⟩
    obtain ⟨context, hcontext, hmap⟩ := Option.bind_eq_some_iff.1 hcheck
    obtain ⟨test, htest, rfl⟩ := Option.map_eq_some_iff.1 hmap
    exact ⟨⟨test, htest⟩, context, hcontext, rfl⟩
  · rintro ⟨⟨test, htest⟩, context, hcontext, rfl⟩
    exact ⟨⟨test, context.expr⟩, by rw [hcontext, htest]; rfl, rfl⟩

/-- **When the failure check uses what was given away:** with exceptions on and parameters of
    distinct names, the check behind the call names a parameter whose handle the call has released
    exactly for a result that tells a failure and parameters that misreport it. -/
theorem reports_released_iff (hs : s.exceptions = true)
    (hnames : (m.function.params.map (·.name)).Nodup) {code : Code}
    (h : memberDefinition s c m = .ok code) :
    ∃ signature body, s.signature c m = .ok signature ∧ memberBody s c m = .ok body ∧
      code = [signature.text (s.className c ++ "::"), r"{"] ++ body.beforeCall s ++
        ["  auto res = " ++ m.function.name ++ "(" ++ ", ".intercalate body.args ++ ");"] ++
        body.rethrows.flatMap rethrowLines ++ Body.failureLines body.failure ++
        body.result ++ [r"}"] ∧
      (∀ p, m.function.Releases s m.kind p → p.name ++ ".release()" ∈ body.args) ∧
      ((∃ check p, body.failure = some check ∧ m.function.Releases s m.kind p ∧
          check.context = p.name) ↔
        m.function.returnType.tellsFailure = true ∧ m.function.Misreports s m.kind) := by
  obtain ⟨signature, body, hsignature, hbody, rfl⟩ := memberDefinition_eq_ok_iff.1 h
  refine ⟨signature, body, signature_eq_ok_iff.2 hsignature, memberBody_eq_ok_iff.2 hbody, ?_,
    fun p hreleased => hreleased.mem_callArgs hbody.args, ?_⟩
  · rw [definitionLines, Body.lines_eq, Body.afterCall, hbody.callLine]
    simp only [List.append_assoc]
  · constructor
    · rintro ⟨check, p, hcheck, hreleased, hname⟩
      obtain ⟨hresult, context, hcontext, hexpr⟩ :=
        (hbody.exists_failure_iff hs p.name).1 ⟨check, hcheck, hname⟩
      exact ⟨hresult, misreports_of_reportsTo hnames hcontext hreleased hexpr⟩
    · rintro ⟨hresult, hmisreports⟩
      obtain ⟨context, p, hcontext, hreleased, hexpr⟩ := hmisreports.exists_reportsTo
      obtain ⟨check, hcheck, hname⟩ :=
        (hbody.exists_failure_iff hs p.name).2 ⟨hresult, context, hcontext, hexpr⟩
      exact ⟨check, p, hcheck, hreleased, hname⟩

/-- A static method whose callee takes the context over. -/
def universeOf : Member where
  name := "universe"
  function := {
    name := "isl_union_map_universe"
    returnType := .handle "isl_union_map"
    givesResult := true
    params := [⟨"ctx", .context, .take⟩, ⟨"space", .handle "isl_space", .take⟩] }
  kind := .staticMethod

theorem reports_released_iff_universeOf :
    Settings.standard.exceptions = true ∧
      (universeOf.function.params.map (·.name)).Nodup ∧
      ∃ code, memberDefinition .standard unionMap universeOf = .ok code ∧
        ∃ signature body, Settings.signature .standard unionMap universeOf = .ok signature ∧
          memberBody .standard unionMap universeOf = .ok body ∧
          code = [signature.text (Settings.standard.className unionMap ++ "::"), r"{"] ++
            body.beforeCall .standard ++
            ["  auto res = " ++ universeOf.function.name ++ "(" ++ ", ".intercalate body.args ++
              ");"] ++
            body.rethrows.flatMap rethrowLines ++ Body.failureLines body.failure ++
            body.result ++ [r"}"] ∧
          (∀ p, universeOf.function.Releases .standard universeOf.kind p →
            p.name ++ ".release()" ∈ body.args) ∧
          ((∃ check p, body.failure = some check ∧
              universeOf.function.Releases .standard universeOf.kind p ∧
              check.context = p.name) ↔
            universeOf.function.returnType.tellsFailure = true ∧
              universeOf.function.Misreports .standard universeOf.kind) :=
  ⟨rfl, by decide, _, rfl, reports_released_iff rfl (by decide) rfl⟩

/-- The call gives the context away, and a failure is reported to it. -/
theorem reports_released_universeOf :
    Settings.standard.exceptions = true ∧
      (universeOf.function.params.map (·.name)).Nodup ∧
      ∃ code body check p, memberDefinition .standard unionMap universeOf = .ok code ∧
        memberBody .standard unionMap universeOf = .ok body ∧ body.failure = some check ∧
        universeOf.function.Releases .standard universeOf.kind p ∧ check.context = p.name ∧
        "  auto res = isl_union_map_universe(ctx.release(), space.release());" ∈ code ∧
        "    throw exception::create_from_last_error(ctx);" ∈ code :=
  ⟨rfl, by decide, _, _, _, ⟨"ctx", .context, .take⟩, rfl, rfl, rfl,
    ⟨.argument, List.mem_cons_self, rfl⟩, rfl, by decide +kernel, by decide +kernel⟩

end HandleWrap
