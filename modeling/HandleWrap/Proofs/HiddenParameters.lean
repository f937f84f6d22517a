import HandleWrap.Proofs.Member

set_option autoImplicit false

/-! # Hidden parameters leave no trace

A wrapper hides the object that it is called on and all user data: they are no parameters of its
own, and nothing in its text refers to them by their names in C. So these names are free. Two
functions that differ in them alone (`CFunction.RenamesHidden`) are compared parameter by parameter.
What is written about a parameter is picked from the list of all parameters by a function that gives
the same on both sides, which leaves one place where a hidden name counts: without a receiver the
name for a saved context avoids `ctx` even if only user data is called that. -/

namespace HandleWrap

variable {s : Settings} {t : ClassTable} {c : ObjectClass} {f g : CFunction} {kind : MethodKind}

/-! ## Other names -/

/-- The same parameter of two functions: one that a wrapper hides may have any other name. -/
inductive Relabelled : Source × Param → Source × Param → Prop where
  | same (x : Source × Param) : Relabelled x x
  | receiver (p : Param) (name : String) : Relabelled (.receiver, p) (.receiver, { p with name })
  | userData {p : Param} (hdata : p.type.isUserData = true) (name : String) :
      Relabelled (.argument, p) (.argument, { p with name })

/-- The function `g` is `f` with other names for what a wrapper of that kind hides. -/
structure CFunction.RenamesHidden (f : CFunction) (kind : MethodKind) (g : CFunction) : Prop where
  name : g.name = f.name
  returnType : g.returnType = f.returnType
  givesResult : g.givesResult = f.givesResult
  params : List.Forall₂ Relabelled (f.sources kind) (g.sources kind)

theorem Relabelled.type_eq {x y : Source × Param} (h : Relabelled x y) :
    y.2.type = x.2.type := by
  cases h <;> rfl

/-- Among arguments all that is no user data keeps its name. -/
theorem Relabelled.eq_or_userData {p q : Param} (h : Relabelled (.argument, p) (.argument, q)) :
    q = p ∨ p.type.isUserData = true ∧ q.type.isUserData = true := by
  cases h with
  | same => exact .inl rfl
  | userData hdata => exact .inr ⟨hdata, hdata⟩

/-- A receiver is an object. -/
theorem isHandle_of_receiver_mem (hreceiver : f.BindsReceiver kind) {p : Param}
    (hp : (.receiver, p) ∈ f.sources kind) : p.type.isHandle = true := by
  cases hkind : kind.hasReceiver with
  | false => simp [sources_of_not_hasReceiver f hkind] at hp
  | true =>
      obtain ⟨first, rest, hparams, hhandle⟩ := hreceiver hkind
      rw [sources_of_hasReceiver hkind hparams, List.mem_cons] at hp
      rcases hp with hp | hp
      · rwa [(Prod.mk.inj hp).2]
      · simp at hp

namespace CFunction.RenamesHidden

/-- What is picked from the parameters by more than the names of hidden ones stays. -/
theorem filterMap_sources {β : Type} {pick : Source × Param → Option β}
    (h : RenamesHidden f kind g)
    (hpick : ∀ x ∈ f.sources kind, ∀ y, Relabelled x y → pick x = pick y) :
    (g.sources kind).filterMap pick = (f.sources kind).filterMap pick :=
  (filterMap_eq_of_forall₂ h.params hpick).symm

theorem filterMap_params {β : Type} {pick : Param → Option β} (h : RenamesHidden f kind g)
    (hpick : ∀ x ∈ f.sources kind, ∀ y, Relabelled x y → pick x.2 = pick y.2) :
    g.params.filterMap pick = f.params.filterMap pick := by
  rw [← sources_map_snd f kind, ← sources_map_snd g kind, List.filterMap_map, List.filterMap_map]
  exact h.filterMap_sources hpick

/-- The types stay. -/
theorem types (h : RenamesHidden f kind g) : g.params.map (·.type) = f.params.map (·.type) := by
  rw [← List.filterMap_eq_map]
  exact h.filterMap_params fun x _ y hxy => congrArg some hxy.type_eq.symm

end CFunction.RenamesHidden

/-! ## What is read off the types -/

theorem hasCallback_eq (f : CFunction) :
    f.hasCallback = (f.params.map (·.type)).any (·.isCallback) := by
  rw [List.any_map]
  rfl

theorem isImplicitConversion_eq (t : ClassTable) (c : ObjectClass) (f : CFunction) :
    t.isImplicitConversion c f =
      match f.params.map (·.type) with
      | [type] => type.handleName?.any fun sub => t.isSubclass sub c
      | _ => false := by
  unfold ClassTable.isImplicitConversion
  match f.params with
  | [] => rfl
  | [_] => rfl
  | _ :: _ :: _ => rfl

namespace CFunction.RenamesHidden

theorem hasCallback (h : RenamesHidden f kind g) : g.hasCallback = f.hasCallback := by
  rw [hasCallback_eq, hasCallback_eq, h.types]

theorem qualifiers (h : RenamesHidden f kind g) (t : ClassTable) (c : ObjectClass)
    (name : String) : t.qualifiers c ⟨name, g, kind⟩ = t.qualifiers c ⟨name, f, kind⟩ := by
  unfold ClassTable.qualifiers
  rw [isImplicitConversion_eq, isImplicitConversion_eq, h.types]

theorem failureTest? (h : RenamesHidden f kind g) : g.failureTest? = f.failureTest? := by
  unfold CFunction.failureTest?
  rw [h.returnType]

theorem needsContext (h : RenamesHidden f kind g) : g.needsContext kind = f.needsContext kind := by
  unfold CFunction.needsContext
  rw [h.failureTest?]

theorem settingsReturnType (h : RenamesHidden f kind g) (s : Settings) (c : ObjectClass) :
    s.returnType c g = s.returnType c f := by
  unfold Settings.returnType
  rw [h.returnType]

theorem resultLines (h : RenamesHidden f kind g) (s : Settings) :
    HandleWrap.resultLines s g = HandleWrap.resultLines s f := by
  unfold HandleWrap.resultLines
  rw [h.returnType, h.givesResult, h.hasCallback]

theorem conversion (h : RenamesHidden f kind g) (s : Settings) (c : ObjectClass) (name : String) :
    Member.conversion s c ⟨name, g, kind⟩ = Member.conversion s c ⟨name, f, kind⟩ := by
  unfold Member.conversion
  rw [h.settingsReturnType, h.resultLines]

end CFunction.RenamesHidden

/-! ## What is picked from the parameters -/

/-- The visible parameters are the arguments but for user data. -/
theorem visibleParams_eq (f : CFunction) (kind : MethodKind) :
    f.visibleParams kind = (f.sources kind).filterMap fun x =>
      if x.1 = .argument ∧ x.2.type.isUserData = false then some x.2 else none := by
  cases hkind : kind.hasReceiver with
  | false =>
      rw [sources_of_not_hasReceiver f hkind, List.filterMap_map, CFunction.visibleParams, hkind]
      simp [← List.filterMap_eq_filter, Option.guard]
  | true =>
      cases hparams : f.params with
      | nil => simp [CFunction.visibleParams, CFunction.sources, hparams]
      | cons first rest =>
          rw [sources_of_hasReceiver hkind hparams, CFunction.visibleParams, hparams, hkind]
          simp [← List.filterMap_eq_filter, Option.guard]

/-- What is passed to the C function, parameter by parameter. -/
theorem callArgs_eq (s : Settings) (f : CFunction) (kind : MethodKind) :
    f.callArgs s kind = do
      let uses ← ((f.sources kind).filterMap fun x =>
        if x.2.type.isUserData then none else some (x.2.uses s x.1)).mapM id
      return uses.flatten := by
  have huses : (f.sources kind).filterMap (fun x =>
      if x.2.type.isUserData then none else some (x.2.uses s x.1)) =
      ((f.sources kind).filter fun x => !x.2.type.isUserData).map fun x => x.2.uses s x.1 := by
    rw [← List.filterMap_eq_filter, List.map_filterMap]
    congr
    funext x
    cases hdata : x.2.type.isUserData <;> simp [Option.guard, hdata]
  rw [huses, List.mapM_map]
  rfl

/-- The object that a method is called on is handed over without its name. -/
theorem uses_receiver {p : Param} (hhandle : p.type.isHandle = true) (name : String) :
    Param.uses s .receiver { p with name } = p.uses s .receiver := by
  obtain ⟨oldName, type, ownership⟩ := p
  cases type with
  | handle => rfl
  | _ => cases hhandle

namespace CFunction.RenamesHidden

theorem visibleParams (h : RenamesHidden f kind g) :
    g.visibleParams kind = f.visibleParams kind := by
  rw [visibleParams_eq, visibleParams_eq]
  refine h.filterMap_sources fun x _ y hxy => ?_
  cases hxy with
  | same => rfl
  | receiver => simp
  | userData hdata => simp [hdata]

theorem nullTests (h : RenamesHidden f kind g) : g.nullTests kind = f.nullTests kind := by
  refine h.filterMap_sources fun x _ y hxy => ?_
  cases hxy with
  | same => rfl
  | receiver => rfl
  | userData hdata => simp [isUserData_eq_true_iff.1 hdata, CType.isHandle]

theorem callbacks (h : RenamesHidden f kind g) (hreceiver : f.BindsReceiver kind) :
    g.callbacks = f.callbacks := by
  refine h.filterMap_params fun x hx y hxy => ?_
  cases hxy with
  | same => rfl
  | receiver p =>
      have hhandle := isHandle_of_receiver_mem hreceiver hx
      cases htype : p.type with
      | handle => simp [CType.callback?]
      | _ => rw [htype] at hhandle; cases hhandle
  | userData hdata => simp [isUserData_eq_true_iff.1 hdata, CType.callback?]

theorem callArgs (h : RenamesHidden f kind g) (hreceiver : f.BindsReceiver kind) (s : Settings) :
    g.callArgs s kind = f.callArgs s kind := by
  rw [callArgs_eq, callArgs_eq, h.filterMap_sources]
  intro x hx y hxy
  cases hxy with
  | same => rfl
  | receiver p name =>
      simp only [uses_receiver (isHandle_of_receiver_mem hreceiver hx)]
  | userData hdata => simp [hdata]

end CFunction.RenamesHidden

/-! ## Where failures are reported -/

/-- Without a receiver all but user data can be looked up among the visible parameters. -/
theorem find?_visibleParams (hkind : kind.hasReceiver = false) {P : Param → Bool}
    (hP : ∀ p, P p = true → p.type.isUserData = false) :
    (f.visibleParams kind).find? P = f.params.find? P := by
  rw [CFunction.visibleParams, hkind, if_neg Bool.false_ne_true, List.drop_zero, List.find?_filter]
  congr
  funext p
  cases hp : P p with
  | false => simp
  | true => simp [hP p hp]

/-- The same of a name that no user data has. -/
theorem any_name_visibleParams (hkind : kind.hasReceiver = false) {name : String}
    (hname : ∀ p ∈ f.params, p.type.isUserData = true → p.name ≠ name) :
    (f.visibleParams kind).any (·.name == name) = f.params.any (·.name == name) := by
  rw [CFunction.visibleParams, hkind, if_neg Bool.false_ne_true, List.drop_zero, List.any_filter,
    Bool.eq_iff_iff, List.any_eq_true, List.any_eq_true]
  refine exists_congr fun p => and_congr_right fun hp => ?_
  cases hdata : p.type.isUserData with
  | false => simp
  | true => simp [hname p hp hdata]

namespace CFunction.RenamesHidden

/-- A context in first place keeps its place and its name. -/
theorem leadingContext (h : RenamesHidden f kind g) (hkind : kind.hasReceiver = false) :
    g.firstParam?.filter (·.type.isContext) = f.firstParam?.filter (·.type.isContext) := by
  have hparams := h.params
  rw [sources_of_not_hasReceiver f hkind, sources_of_not_hasReceiver g hkind,
    List.forall₂_map_left_iff, List.forall₂_map_right_iff] at hparams
  unfold CFunction.firstParam?
  generalize f.params = ps, g.params = qs at hparams
  cases hparams with
  | nil => rfl
  | cons hfirst _ =>
      rcases hfirst.eq_or_userData with rfl | ⟨hp, hq⟩
      · rfl
      · simp [isUserData_eq_true_iff.1 hp, isUserData_eq_true_iff.1 hq, CType.isContext,
          Option.filter]

/-- The name for a saved context stays if no user data has the name that it avoids. -/
theorem savedContextName (h : RenamesHidden f kind g) (hkind : kind.hasReceiver = false)
    (hctx : ∀ p ∈ f.params ++ g.params, p.type.isUserData = true → p.name ≠ "ctx") :
    g.savedContextName = f.savedContextName := by
  obtain ⟨hf, hg⟩ := List.forall_mem_append.1 hctx
  unfold CFunction.savedContextName
  rw [← any_name_visibleParams hkind hf, ← any_name_visibleParams hkind hg, h.visibleParams]

theorem errorContext? (h : RenamesHidden f kind g)
    (hctx : kind.hasReceiver = false →
      ∀ p ∈ f.params ++ g.params, p.type.isUserData = true → p.name ≠ "ctx") :
    g.errorContext? kind = f.errorContext? kind := by
  cases hkind : kind.hasReceiver with
  | true => simp only [CFunction.errorContext?, hkind, if_true]
  | false =>
      have hhandle : ∀ p : Param, p.type.isHandle = true → p.type.isUserData = false :=
        fun p hp => (CType.plain_of_isHandle hp).2
      have hcontext : ∀ p : Param, p.type.isContext = true → p.type.isUserData = false :=
        fun p hp => (CType.plain_of_isContext hp).2
      rw [errorContext?_of_not_hasReceiver hkind, errorContext?_of_not_hasReceiver hkind,
        h.leadingContext hkind, h.savedContextName hkind (hctx hkind),
        ← find?_visibleParams hkind hhandle, ← find?_visibleParams hkind hcontext,
        h.visibleParams, find?_visibleParams hkind hhandle, find?_visibleParams hkind hcontext]

end CFunction.RenamesHidden

/-! ## Members -/

namespace CFunction.RenamesHidden

theorem signature (h : RenamesHidden f kind g) (s : Settings) (c : ObjectClass) (name : String) :
    s.signature c ⟨name, g, kind⟩ = s.signature c ⟨name, f, kind⟩ := by
  unfold Settings.signature
  simp only [h.settingsReturnType, h.visibleParams]

theorem memberBody (h : RenamesHidden f kind g) (hreceiver : f.BindsReceiver kind)
    (hctx : kind.hasReceiver = false →
      ∀ p ∈ f.params ++ g.params, p.type.isUserData = true → p.name ≠ "ctx")
    (s : Settings) (c : ObjectClass) (name : String) :
    HandleWrap.memberBody s c ⟨name, g, kind⟩ = HandleWrap.memberBody s c ⟨name, f, kind⟩ := by
  have hcontext : Member.context? s ⟨name, g, kind⟩ = Member.context? s ⟨name, f, kind⟩ := by
    unfold Member.context?
    rw [h.errorContext? hctx]
  have hlacks : Member.lacksContext s ⟨name, g, kind⟩ = Member.lacksContext s ⟨name, f, kind⟩ := by
    unfold Member.lacksContext
    rw [hcontext, h.needsContext]
  rw [memberBody_eq, memberBody_eq, hlacks, hcontext, h.callbacks hreceiver,
    h.callArgs hreceiver, h.conversion, h.nullTests, h.failureTest?, h.name]

end CFunction.RenamesHidden

/-- **Hidden parameters leave no trace:** under other names for user data and for the object that a
    method is called on, a function has the same declaration and the same definition, or the same
    error, as long as no user data is called `ctx` where there is no such object. -/
theorem hidden_names_free (s : Settings) (t : ClassTable) (name : String)
    (hkind : kind = .instanceMethod → c.methodKind f = .instanceMethod)
    (h : f.RenamesHidden kind g)
    (hctx : kind.hasReceiver = false →
      ∀ p ∈ f.params ++ g.params, p.type.isUserData = true → p.name ≠ "ctx") :
    memberDeclaration s t c ⟨name, g, kind⟩ = memberDeclaration s t c ⟨name, f, kind⟩ ∧
      memberDefinition s c ⟨name, g, kind⟩ = memberDefinition s c ⟨name, f, kind⟩ := by
  have hreceiver : f.BindsReceiver kind := bindsReceiver_of_methodKind hkind
  constructor
  · rw [memberDeclaration, memberDeclaration, h.signature, h.qualifiers, h.name]
  · rw [memberDefinition, memberDefinition, h.signature, h.memberBody hreceiver hctx, h.name]

/-- The function of `foreachMap` under other names for its object and its user data. -/
def foreachMapAs (object data : String) : CFunction :=
  { foreachMap.function with
    params := foreachMap.function.params.zipWith (fun p name => { p with name })
      [object, "fn", data] }

/-- As a method the function may have any two names there, as a static method the object is visible
    and the user data is not called `ctx`. -/
theorem hidden_names_free_foreachMap :
    (unionMap.methodKind foreachMap.function = .instanceMethod ∧
      foreachMap.function.RenamesHidden .instanceMethod (foreachMapAs "self" "ctx") ∧
      memberDeclaration .standard .empty unionMap
          ⟨"foreach_map", foreachMapAs "self" "ctx", .instanceMethod⟩ =
        memberDeclaration .standard .empty unionMap foreachMap ∧
      memberDefinition .standard unionMap
          ⟨"foreach_map", foreachMapAs "self" "ctx", .instanceMethod⟩ =
        memberDefinition .standard unionMap foreachMap) ∧
    foreachMap.function.RenamesHidden .staticMethod (foreachMapAs "umap" "data") ∧
      (∀ p ∈ foreachMap.function.params ++ (foreachMapAs "umap" "data").params,
        p.type.isUserData = true → p.name ≠ "ctx") ∧
      memberDeclaration .standard .empty unionMap
          ⟨"foreach_map", foreachMapAs "umap" "data", .staticMethod⟩ =
        memberDeclaration .standard .empty unionMap
          ⟨"foreach_map", foreachMap.function, .staticMethod⟩ ∧
      memberDefinition .standard unionMap
          ⟨"foreach_map", foreachMapAs "umap" "data", .staticMethod⟩ =
        memberDefinition .standard unionMap
          ⟨"foreach_map", foreachMap.function, .staticMethod⟩ := by
  have hmethod : foreachMap.function.RenamesHidden .instanceMethod (foreachMapAs "self" "ctx") :=
    ⟨rfl, rfl, rfl, .cons (.receiver _ _) (.cons (.same _) (.cons (.userData rfl _) .nil))⟩
  have hstatic : foreachMap.function.RenamesHidden .staticMethod (foreachMapAs "umap" "data") :=
    ⟨rfl, rfl, rfl, .cons (.same _) (.cons (.same _) (.cons (.userData rfl _) .nil))⟩
  have hctx : ∀ p ∈ foreachMap.function.params ++ (foreachMapAs "umap" "data").params,
      p.type.isUserData = true → p.name ≠ "ctx" := by
    simp [foreachMap, foreachMapAs, CType.isUserData]
  have hfirst : MethodKind.instanceMethod.hasReceiver ≠ false := by decide
  have hsecond : MethodKind.staticMethod ≠ .instanceMethod := by decide
  exact ⟨⟨rfl, hmethod, hidden_names_free .standard .empty _ (fun _ => rfl) hmethod
      fun h => absurd h hfirst⟩,
    hstatic, hctx, hidden_names_free .standard .empty _ (fun h => absurd h hsecond) hstatic
      fun _ => hctx⟩

/-- Without a receiver the name of user data can still move the name for a saved context. -/
example : foreachMap.function.savedContextName = "ctx" ∧
    (foreachMapAs "umap" "ctx").savedContextName = "saved_ctx" := by
  decide

end HandleWrap
