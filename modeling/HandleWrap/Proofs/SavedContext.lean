import HandleWrap.Proofs.ReleasedArguments

set_option autoImplicit false

/-! # The name of a saved context

A context that is taken from an object is saved in a local of the wrapper. The local is called
`ctx`, or `saved_ctx` if some parameter is called `ctx`; nothing looks for a parameter that has the
second name as well. `saved_context_shadows_iff` says that this is all that can go wrong: the local
has the name of a parameter of the wrapper exactly if both names are taken. -/

namespace HandleWrap

variable {s : Settings} {c : ObjectClass} {m : Member} {f : CFunction} {kind : MethodKind}
  {object fresh : String}

/-- The wrapper has a parameter of that name. -/
def CFunction.Declares (f : CFunction) (kind : MethodKind) (name : String) : Prop :=
  ∃ p ∈ f.visibleParams kind, p.name = name

/-- **When the name for a saved context is taken:** the one for all cases is taken only if another
    parameter forces it and a visible one has it. -/
theorem declares_savedContextName_iff :
    f.Declares kind f.savedContextName ↔
      (∃ q ∈ f.params, q.name = "ctx") ∧ f.Declares kind "saved_ctx" := by
  constructor
  · rintro ⟨p, hp, hname⟩
    obtain ⟨hctx, hsaved⟩ :=
      exists_ctx_of_savedContextName_eq (mem_params_of_mem_visibleParams hp) hname.symm
    exact ⟨hctx, p, hp, hsaved⟩
  · rintro ⟨⟨q, hq, hctx⟩, hsaved⟩
    rwa [savedContextName_of_mem hq hctx]

/-- A saved context is that of an object among the visible parameters, under the name for saved
    contexts. -/
theorem declares_of_saved (h : f.errorContext? kind = some (.saved object fresh)) :
    f.Declares kind object ∧ fresh = f.savedContextName := by
  cases errorContext?_eq_some_iff.1 h with
  | @saved before after p hkind hparams hhandle hbefore hlead =>
      have hmem : p ∈ f.params := by simp [hparams]
      have hvisible := mem_visibleParams hkind hmem (CType.plain_of_isHandle hhandle).2
      exact ⟨⟨p, hvisible, rfl⟩, rfl⟩

/-- The signature of a wrapper declares the visible parameters and nothing else. -/
theorem SignatureOf.declaredAs {signature : Signature} (h : SignatureOf s c m signature) :
    List.Forall₂ (fun p text => p.DeclaredAs s text) (m.function.visibleParams m.kind)
      signature.params :=
  h.params.imp fun _ _ htext => (declaration_eq_ok_iff.1 htext).2

/-- The local stands behind the null tests and in front of all else. -/
theorem BodyOf.capture_lines {body : Body} (h : BodyOf s c m body) (hs : s.exceptions = true)
    (hcontext : m.function.errorContext? m.kind = some (.saved object fresh)) :
    ∃ rest, body.lines s = Body.nullCheckLines s body.nullTests ++
      ["  auto " ++ fresh ++ " = " ++ object ++ ".get_ctx();"] ++ rest := by
  have hbody : body.context = some (.saved object fresh) := by
    rw [h.context, context?_of_exceptions hs, hcontext]
  have hbefore : body.beforeCall s = Body.nullCheckLines s body.nullTests ++
      ErrorContext.scopeLines s (.saved object fresh) ++ body.callbackLocals.flatten := by
    rw [Body.beforeCall, hbody]
    rfl
  refine ⟨["  options_scoped_set_on_error saved_on_error(" ++ fresh ++ ", " ++ s.onErrorContinue ++
    ");"] ++ body.callbackLocals.flatten ++ [body.callLine] ++ body.afterCall, ?_⟩
  rw [Body.lines_eq, hbefore, ErrorContext.scopeLines]
  simp only [ErrorContext.captureLines, ErrorContext.expr, List.append_assoc]

/-- **When a saved context shadows a parameter:** the context of a visible object is saved under a
    name that a visible parameter has exactly if a parameter is called `ctx` and a visible one
    `saved_ctx`. With exceptions on every definition declares the visible parameters in its
    signature and the local behind the null tests. -/
theorem saved_context_shadows_iff (h : f.errorContext? kind = some (.saved object fresh)) :
    f.Declares kind object ∧
      (f.Declares kind fresh ↔
        (∃ q ∈ f.params, q.name = "ctx") ∧ f.Declares kind "saved_ctx") ∧
      ∀ s c name code, s.exceptions = true → memberDefinition s c ⟨name, f, kind⟩ = .ok code →
        ∃ signature body rest, s.signature c ⟨name, f, kind⟩ = .ok signature ∧
          List.Forall₂ (fun p text => p.DeclaredAs s text) (f.visibleParams kind)
            signature.params ∧
          memberBody s c ⟨name, f, kind⟩ = .ok body ∧
          code = [signature.text (s.className c ++ "::"), r"{"] ++
            Body.nullCheckLines s body.nullTests ++
            ["  auto " ++ fresh ++ " = " ++ object ++ ".get_ctx();"] ++ rest := by
  obtain ⟨hobject, hfresh⟩ := declares_of_saved h
  refine ⟨hobject, hfresh ▸ declares_savedContextName_iff, ?_⟩
  intro s c name code hs hcode
  obtain ⟨signature, body, hsignature, hbody, rfl⟩ := memberDefinition_eq_ok_iff.1 hcode
  obtain ⟨rest, hlines⟩ := hbody.capture_lines hs h
  refine ⟨signature, body, rest ++ [r"}"], signature_eq_ok_iff.2 hsignature,
    hsignature.declaredAs, memberBody_eq_ok_iff.2 hbody, ?_⟩
  rw [definitionLines, hlines]
  simp only [List.append_assoc]

/-- A static method whose parameters have both names for a saved context. -/
def fromParts : Member where
  name := "from_parts"
  function := {
    name := "isl_union_map_from_parts"
    returnType := .handle "isl_union_map"
    givesResult := true
    params := [⟨"space", .handle "isl_space", .take⟩, ⟨"ctx", .context, .keep⟩,
      ⟨"saved_ctx", .integer "int", .keep⟩] }
  kind := .staticMethod

theorem saved_context_shadows_iff_fromParts :
    fromParts.function.errorContext? fromParts.kind = some (.saved "space" "saved_ctx") ∧
      fromParts.function.Declares fromParts.kind "space" ∧
      (fromParts.function.Declares fromParts.kind "saved_ctx" ↔
        (∃ q ∈ fromParts.function.params, q.name = "ctx") ∧
          fromParts.function.Declares fromParts.kind "saved_ctx") ∧
      ∃ code, memberDefinition .standard unionMap fromParts = .ok code ∧
        ∃ signature body rest, Settings.signature .standard unionMap fromParts = .ok signature ∧
          List.Forall₂ (fun p text => p.DeclaredAs .standard text)
            (fromParts.function.visibleParams fromParts.kind) signature.params ∧
          memberBody .standard unionMap fromParts = .ok body ∧
          code = [signature.text (Settings.standard.className unionMap ++ "::"), r"{"] ++
            Body.nullCheckLines .standard body.nullTests ++
            ["  auto " ++ "saved_ctx" ++ " = " ++ "space" ++ ".get_ctx();"] ++ rest := by
  have hcontext : fromParts.function.errorContext? fromParts.kind =
      some (.saved "space" "saved_ctx") := by decide
  obtain ⟨hobject, hshadows, hdefinitions⟩ := saved_context_shadows_iff hcontext
  exact ⟨hcontext, hobject, hshadows, _, rfl,
    hdefinitions .standard unionMap fromParts.name _ rfl rfl⟩

/-- The local for the saved context has the name of a parameter. -/
theorem saved_context_shadows_fromParts :
    ∃ object fresh, fromParts.function.errorContext? fromParts.kind = some (.saved object fresh) ∧
      fromParts.function.Declares fromParts.kind fresh ∧
      ∃ code, memberDefinition .standard unionMap fromParts = .ok code ∧
        "isl::union_map union_map::from_parts(isl::space space, const isl::ctx &ctx, int saved_ctx)"
          ∈ code ∧
        "  auto saved_ctx = space.get_ctx();" ∈ code :=
  ⟨"space", "saved_ctx", by decide,
    ⟨⟨"saved_ctx", .integer "int", .keep⟩, .tail _ (.tail _ (.head _)), rfl⟩,
    _, rfl, by decide +kernel, by decide +kernel⟩

end HandleWrap
