import HandleWrap.Method
import HandleWrap.Proofs.Adaptation

set_option autoImplicit false

/-! # Receivers and contexts

Facts about a C function as a method: whether its first parameter is the object that the method is
called on, where the parameters come from, which of them are visible in the signature, and when
there is a context that failures are reported to. -/

namespace HandleWrap

variable {c : ObjectClass} {f : CFunction} {kind : MethodKind}

/-! ## Receivers -/

/-- A method is called on an object exactly if its first parameter is a handle of the class's own C
    type. -/
theorem methodKind_eq_instanceMethod_iff :
    c.methodKind f = .instanceMethod ↔
      ∃ first rest, f.params = first :: rest ∧ first.type = .handle c.name := by
  unfold ObjectClass.methodKind CFunction.firstParam?
  cases f.params with
  | nil => simp
  | cons first rest =>
      have hname : first.type.handleName? = some c.name ↔ first.type = .handle c.name := by
        cases first.type <;> simp [CType.handleName?]
      rw [List.head?_cons, Option.bind_some]
      by_cases hfirst : first.type = .handle c.name
      · rw [if_pos (hname.2 hfirst)]
        exact iff_of_true rfl ⟨first, rest, rfl, hfirst⟩
      · rw [if_neg (mt hname.1 hfirst)]
        refine iff_of_false (by decide) ?_
        rintro ⟨_, _, hcons, htype⟩
        obtain ⟨rfl, rfl⟩ := List.cons.inj hcons
        exact hfirst htype

theorem hasReceiver_eq_true_iff :
    kind.hasReceiver = true ↔ kind = .instanceMethod := by
  cases kind <;> simp [MethodKind.hasReceiver]

/-- If the function is called on an object, then that is its first parameter. -/
def CFunction.BindsReceiver (f : CFunction) (kind : MethodKind) : Prop :=
  kind.hasReceiver = true →
    ∃ first rest, f.params = first :: rest ∧ first.type.isHandle = true

theorem bindsReceiver_of_methodKind
    (hkind : kind = .instanceMethod → c.methodKind f = .instanceMethod) :
    f.BindsReceiver kind := by
  intro h
  obtain ⟨first, rest, hparams, htype⟩ :=
    methodKind_eq_instanceMethod_iff.1 (hkind (hasReceiver_eq_true_iff.1 h))
  exact ⟨first, rest, hparams, by rw [htype]; rfl⟩

/-! ## Sources -/

/-- Without a receiver every parameter comes from an argument. -/
theorem sources_of_not_hasReceiver (f : CFunction) (hkind : kind.hasReceiver = false) :
    f.sources kind = f.params.map (Prod.mk .argument) := by
  unfold CFunction.sources
  cases f.params with
  | nil => rfl
  | cons first rest => simp [hkind]

/-- Behind the receiver every parameter comes from an argument. -/
theorem sources_of_hasReceiver {first : Param} {rest : List Param}
    (hkind : kind.hasReceiver = true) (hparams : f.params = first :: rest) :
    f.sources kind = (.receiver, first) :: rest.map (Prod.mk .argument) := by
  simp only [CFunction.sources, hparams, hkind, if_true]

/-- Every parameter has a source. -/
theorem sources_map_snd (f : CFunction) (kind : MethodKind) :
    (f.sources kind).map Prod.snd = f.params := by
  unfold CFunction.sources
  cases f.params with
  | nil => rfl
  | cons first rest => simp [Function.comp_def]

/-- What is passed to the C function is what each parameter is handed on by. -/
theorem callArgs_eq_ok_iff {s : Settings} {args : List String} :
    f.callArgs s kind = .ok args ↔ ∃ exprs,
      List.Forall₂ (fun x uses => x.2.uses s x.1 = .ok uses)
        ((f.sources kind).filter fun x => !x.2.type.isUserData) exprs ∧ args = exprs.flatten := by
  rw [CFunction.callArgs, bind_pure_eq_ok_iff]
  simp only [mapM_eq_ok_iff]

/-- What holds of all that a parameter can be handed on by holds of what is passed. -/
theorem forall_mem_of_callArgs {s : Settings} {args : List String} {P : String → Prop}
    (h : f.callArgs s kind = .ok args)
    (hP : ∀ p ∈ f.params, ∀ source uses, p.uses s source = .ok uses → ∀ expr ∈ uses, P expr) :
    ∀ arg ∈ args, P arg := by
  obtain ⟨exprs, huses, rfl⟩ := callArgs_eq_ok_iff.1 h
  have heach : ∀ uses ∈ exprs, ∀ expr ∈ uses, P expr := by
    refine forall_mem_of_forall₂ huses fun x hx uses huse => ?_
    have hp : x.2 ∈ f.params := by
      rw [← sources_map_snd f kind]
      exact List.mem_map_of_mem (List.mem_of_mem_filter hx)
    exact hP x.2 hp x.1 uses huse
  intro arg harg
  obtain ⟨uses, huses, harg⟩ := List.mem_flatten.1 harg
  exact heach uses huses arg harg

/-- Without a receiver all but user data is visible. -/
theorem mem_visibleParams {p : Param} (hkind : kind.hasReceiver = false) (hp : p ∈ f.params)
    (htype : p.type.isUserData = false) : p ∈ f.visibleParams kind := by
  unfold CFunction.visibleParams
  rw [hkind]
  exact List.mem_filter.2 ⟨hp, by simp [htype]⟩

theorem mem_params_of_mem_visibleParams {p : Param} (hp : p ∈ f.visibleParams kind) :
    p ∈ f.params :=
  List.mem_of_mem_drop (List.mem_of_mem_filter hp)

/-- What is not visible is user data or the receiver, which is an object. -/
theorem mem_visibleParams_or_isHandle (hreceiver : f.BindsReceiver kind) {p : Param}
    (hp : p ∈ f.params) (hdata : p.type.isUserData = false) :
    p ∈ f.visibleParams kind ∨ p.type.isHandle = true := by
  cases hkind : kind.hasReceiver with
  | false => exact Or.inl (mem_visibleParams hkind hp hdata)
  | true =>
      obtain ⟨first, rest, hparams, hhandle⟩ := hreceiver hkind
      rw [hparams] at hp
      rcases List.mem_cons.1 hp with rfl | hp
      · exact Or.inr hhandle
      · refine Or.inl ?_
        rw [CFunction.visibleParams, hparams, if_pos hkind]
        exact List.mem_filter.2 ⟨hp, by simp [hdata]⟩

/-! ## Contexts -/

/-- Without a receiver the parameters are looked through three times. -/
theorem errorContext?_of_not_hasReceiver (hkind : kind.hasReceiver = false) :
    f.errorContext? kind =
      ((f.firstParam?.filter (·.type.isContext)).map fun p => .param p.name).or
        (((f.params.find? (·.type.isHandle)).map fun p => .saved p.name f.savedContextName).or
          ((f.params.find? (·.type.isContext)).map fun p => .param p.name)) := by
  rw [CFunction.errorContext?, hkind, if_neg Bool.false_ne_true]

/-- Nothing leads to a context exactly if there is no receiver and no parameter that is an object or
    a context. -/
theorem errorContext?_eq_none_iff :
    f.errorContext? kind = none ↔ kind.hasReceiver = false ∧
      ∀ p ∈ f.params, p.type.isHandle = false ∧ p.type.isContext = false := by
  cases hkind : kind.hasReceiver with
  | true => simp [CFunction.errorContext?, hkind]
  | false =>
      rw [errorContext?_of_not_hasReceiver hkind]
      simp only [true_and, Option.or_eq_none_iff, Option.map_eq_none_iff, List.find?_eq_none,
        Bool.not_eq_true]
      constructor
      · rintro ⟨_, hhandle, hcontext⟩ p hp
        exact ⟨hhandle p hp, hcontext p hp⟩
      · intro h
        refine ⟨?_, fun p hp => (h p hp).1, fun p hp => (h p hp).2⟩
        rw [CFunction.firstParam?, Option.filter_eq_none_iff]
        intro p hp
        rw [(h p (List.mem_of_mem_head? hp)).2]
        exact Bool.false_ne_true

/-- `ReportsTo f kind context`: failures are reported to `context`. -/
inductive CFunction.ReportsTo (f : CFunction) (kind : MethodKind) : ErrorContext → Prop where
  | receiver (hkind : kind.hasReceiver = true) : ReportsTo f kind .receiver
  /-- The first context, if it stands in first place or there is no object. -/
  | param {before after : List Param} {p : Param} (hkind : kind.hasReceiver = false)
      (hparams : f.params = before ++ p :: after) (hcontext : p.type.isContext = true)
      (hbefore : ∀ q ∈ before, q.type.isContext = false)
      (hlead : before = [] ∨ ∀ q ∈ f.params, q.type.isHandle = false) :
      ReportsTo f kind (.param p.name)
  /-- The first object, if there is no context in first place. -/
  | saved {before after : List Param} {p : Param} (hkind : kind.hasReceiver = false)
      (hparams : f.params = before ++ p :: after) (hhandle : p.type.isHandle = true)
      (hbefore : ∀ q ∈ before, q.type.isHandle = false)
      (hlead : ∀ q, f.firstParam? = some q → q.type.isContext = false) :
      ReportsTo f kind (.saved p.name f.savedContextName)

theorem reportsTo_of_errorContext? {context : ErrorContext}
    (h : f.errorContext? kind = some context) : f.ReportsTo kind context := by
  cases hkind : kind.hasReceiver with
  | true =>
      rw [CFunction.errorContext?, hkind, if_pos rfl] at h
      obtain rfl := Option.some.inj h
      exact .receiver hkind
  | false =>
      rw [errorContext?_of_not_hasReceiver hkind] at h
      rcases Option.or_eq_some_iff.1 h with h | ⟨hfirst, h⟩
      · obtain ⟨p, hp, rfl⟩ := Option.map_eq_some_iff.1 h
        obtain ⟨hhead, hcontext⟩ := Option.filter_eq_some_iff.1 hp
        obtain ⟨rest, hparams⟩ := List.head?_eq_some_iff.1 hhead
        have hsplit : f.params = [] ++ p :: rest := hparams
        exact .param hkind hsplit hcontext (by simp) (.inl rfl)
      have hlead : ∀ q, f.firstParam? = some q → q.type.isContext = false := fun q hq => by
        rw [Option.map_eq_none_iff, Option.filter_eq_none_iff] at hfirst
        exact Bool.eq_false_iff.2 (hfirst q hq)
      rcases Option.or_eq_some_iff.1 h with h | ⟨hhandle, h⟩
      · obtain ⟨p, hp, rfl⟩ := Option.map_eq_some_iff.1 h
        obtain ⟨hhandle, before, after, hparams, hbefore⟩ := List.find?_eq_some_iff_append.1 hp
        exact .saved hkind hparams hhandle (by simpa using hbefore) hlead
      · obtain ⟨p, hp, rfl⟩ := Option.map_eq_some_iff.1 h
        obtain ⟨hcontext, before, after, hparams, hbefore⟩ := List.find?_eq_some_iff_append.1 hp
        refine .param hkind hparams hcontext (by simpa using hbefore) (.inr fun q hq => ?_)
        rw [Option.map_eq_none_iff, List.find?_eq_none] at hhandle
        exact Bool.eq_false_iff.2 (hhandle q hq)

theorem CFunction.ReportsTo.errorContext?_eq {context : ErrorContext}
    (h : f.ReportsTo kind context) : f.errorContext? kind = some context := by
  cases h with
  | receiver hkind => rw [CFunction.errorContext?, hkind, if_pos rfl]
  | @param before after p hkind hparams hcontext hbefore hlead =>
      rw [errorContext?_of_not_hasReceiver hkind]
      have hfind : f.params.find? (·.type.isContext) = some p :=
        List.find?_eq_some_iff_append.2 ⟨hcontext, before, after, hparams, by simpa using hbefore⟩
      cases before with
      | nil =>
          have hfirst : f.firstParam? = some p := by rw [CFunction.firstParam?, hparams]; rfl
          rw [hfirst, Option.filter_some, if_pos hcontext]
          rfl
      | cons first before =>
          have hfirst : f.firstParam? = some first := by rw [CFunction.firstParam?, hparams]; rfl
          have hhandle : f.params.find? (·.type.isHandle) = none := by
            rw [List.find?_eq_none]
            exact fun q hq => Bool.eq_false_iff.1 (hlead.resolve_left nofun q hq)
          rw [hfirst, Option.filter_some, if_neg (by simp [hbefore]), hhandle, hfind]
          rfl
  | @saved before after p hkind hparams hhandle hbefore hlead =>
      rw [errorContext?_of_not_hasReceiver hkind]
      have hfind : f.params.find? (·.type.isHandle) = some p :=
        List.find?_eq_some_iff_append.2 ⟨hhandle, before, after, hparams, by simpa using hbefore⟩
      have hfirst : f.firstParam?.filter (·.type.isContext) = none := by
        rw [Option.filter_eq_none_iff]
        exact fun q hq => Bool.eq_false_iff.1 (hlead q hq)
      rw [hfirst, hfind]
      rfl

/-- **Where failures are reported to,** in terms of the parameters. -/
theorem errorContext?_eq_some_iff {context : ErrorContext} :
    f.errorContext? kind = some context ↔ f.ReportsTo kind context :=
  ⟨reportsTo_of_errorContext?, CFunction.ReportsTo.errorContext?_eq⟩

theorem failureTest?_eq_none_iff :
    f.failureTest? = none ↔ f.returnType.tellsFailure = false := by
  unfold CFunction.failureTest?
  cases f.returnType <;> simp [CType.tellsFailure]

/-- Failures have to be reported for constructors, and for results that tell them. -/
theorem needsContext_eq_false_iff :
    f.needsContext kind = false ↔ kind ≠ .constructor ∧ f.returnType.tellsFailure = false := by
  rw [← failureTest?_eq_none_iff, CFunction.needsContext, Bool.or_eq_false_iff,
    Option.isSome_eq_false_iff, Option.isNone_iff_eq_none, beq_eq_false_iff_ne]

end HandleWrap
