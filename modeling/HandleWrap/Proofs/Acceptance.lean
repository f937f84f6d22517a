import HandleWrap.Header
import HandleWrap.Proofs.ClassPasses
import HandleWrap.Proofs.Pairing

set_option autoImplicit false

/-! # Which tables can be generated

What can go wrong is spread over the two passes, the members, their parameters and their callbacks.
`CFunction.Wrappable` and `ObjectClass.Generatable` gather it into conditions on the C functions
that do not mention a pass or a text. `succeeds_generate_iff` says that a table is generated exactly
if its classes meet them; of the settings only those matter that turn exceptions and extensions
on. -/

namespace HandleWrap

/-- A type that a parameter of a wrapper can have. -/
inductive CType.Accepted : CType → Prop where
  | handle (name : String) : Accepted (.handle name)
  | context : Accepted .context
  | bool : Accepted .bool
  | enumeration (name : String) : Accepted (.enumeration name)
  | integer (name : String) : Accepted (.integer name)
  | string : Accepted .string
  | callback {signature : Callback} (h : signature.Adaptable) : Accepted (.callback signature)

/-- What a function needs for a wrapper of that kind. -/
structure CFunction.Wrappable (f : CFunction) (kind : MethodKind) (exceptions : Bool) : Prop where
  /-- All parameters but the receiver and user data have accepted types. -/
  params : ∀ p ∈ f.params.drop (if kind = .instanceMethod then 1 else 0),
    p.type.isUserData = false → p.type.Accepted
  result : kind ≠ .constructor → f.returnType.Translatable
  /-- What can fail has a parameter that leads to a context. -/
  context : exceptions = true →
    kind = .constructor ∨ kind = .staticMethod ∧ f.returnType.tellsFailure = true →
      ∃ p ∈ f.params, p.type.isContext = true ∨ p.type.isHandle = true

/-- What a class needs to be generated. -/
structure ObjectClass.Generatable (c : ObjectClass) (exceptions extensions : Bool) : Prop where
  constructors : ∀ f ∈ c.constructors, f.Wrappable .constructor exceptions
  methods : ∀ group ∈ c.methods.entries, ∀ f ∈ group.2, f.Wrappable (c.methodKind f) exceptions
  equality : extensions = true → ∀ hook, c.equality = some hook → hook.returnType.Translatable

variable {s : Settings} {t : ClassTable} {c : ObjectClass} {m : Member} {f : CFunction}
  {kind : MethodKind}

/-! ## Parameters -/

/-- The signature and the callback adapter together accept a type. -/
theorem accepted_iff {type : CType} :
    type.Accepted ↔ type ≠ .stat ∧ type.Translatable ∧
      ∀ signature, type = .callback signature → signature.Adaptable := by
  constructor
  · intro h
    cases h with
    | callback h =>
        refine ⟨by simp, h.translatable, fun signature htype => ?_⟩
        rwa [← CType.callback.inj htype]
    | _ => exact ⟨by simp, by constructor, by simp⟩
  · rintro ⟨hstat, htranslatable, hcallback⟩
    cases htranslatable with
    | stat => exact absurd rfl hstat
    | callback _ _ => exact .callback (hcallback _ rfl)
    | _ => constructor

theorem CType.Accepted.isHandedOn {type : CType} (h : type.Accepted) : type.isHandedOn = true := by
  cases h <;> rfl

/-- The call takes any parameter that is handed on, wherever it comes from. -/
theorem succeeds_callArgs_iff :
    Succeeds (f.callArgs s kind) ↔
      ∀ p ∈ f.params, p.type.isUserData = false → p.type.isHandedOn = true := by
  have hparams : (f.sources kind).map Prod.snd = f.params := sources_map_snd f kind
  rw [CFunction.callArgs, succeeds_bind_pure_iff, succeeds_mapM_iff]
  constructor
  · intro h p hp hdata
    rw [← hparams] at hp
    obtain ⟨⟨source, p⟩, hmem, rfl⟩ := List.mem_map.1 hp
    exact (succeeds_uses_iff s source p).1 (h _ (List.mem_filter.2 ⟨hmem, by simp [hdata]⟩))
  · rintro h ⟨source, p⟩ hmem
    obtain ⟨hmem, hdata⟩ := List.mem_filter.1 hmem
    have hp : p ∈ f.params := by
      rw [← hparams]
      exact List.mem_map_of_mem hmem
    exact (succeeds_uses_iff s source p).2 (h p hp (by simpa using hdata))

theorem mem_callbacks_iff {p : Param} {signature : Callback} :
    (p, signature) ∈ f.callbacks ↔ p ∈ f.params ∧ p.type = .callback signature := by
  have hcallback : ∀ type : CType,
      type.callback? = some signature ↔ type = .callback signature := by
    intro type
    cases type <;> simp [CType.callback?]
  unfold CFunction.callbacks
  rw [List.mem_filterMap]
  constructor
  · rintro ⟨q, hq, h⟩
    obtain ⟨signature', htype, hpair⟩ := Option.map_eq_some_iff.1 h
    obtain ⟨rfl, rfl⟩ := Prod.mk.inj hpair
    exact ⟨hq, (hcallback _).1 htype⟩
  · rintro ⟨hp, htype⟩
    exact ⟨p, hp, Option.map_eq_some_iff.2 ⟨signature, (hcallback _).2 htype, rfl⟩⟩

/-- **The parameters:** signature, callback locals and call accept the same ones. -/
theorem succeeds_params_iff (hpaired : Paired f.params) (hreceiver : f.BindsReceiver kind) :
    ((∀ p ∈ f.visibleParams kind, Succeeds (p.declaration s)) ∧
      (∀ callback ∈ f.callbacks, Succeeds (callback.2.locals s callback.1.name)) ∧
      Succeeds (f.callArgs s kind)) ↔ ∀ p ∈ f.visibleParams kind, p.type.Accepted := by
  rw [succeeds_callArgs_iff]
  constructor
  · rintro ⟨hdeclarations, hlocals, _⟩ p hp
    obtain ⟨hstat, htranslatable⟩ := (succeeds_declaration_iff s p).1 (hdeclarations p hp)
    refine accepted_iff.2 ⟨hstat, htranslatable, fun signature htype => ?_⟩
    have hmem : p ∈ f.params := List.mem_of_mem_drop (List.mem_filter.1 hp).1
    exact ((succeeds_locals_iff s _ _).1 (hlocals _ (mem_callbacks_iff.2 ⟨hmem, htype⟩))).2
  · intro h
    refine ⟨fun p hp => ?_, ?_, fun p hp hdata => ?_⟩
    · obtain ⟨hstat, htranslatable, _⟩ := accepted_iff.1 (h p hp)
      exact (succeeds_declaration_iff s p).2 ⟨hstat, htranslatable⟩
    · rintro ⟨p, signature⟩ hcallback
      obtain ⟨hp, htype⟩ := mem_callbacks_iff.1 hcallback
      -- a callback is no receiver, so it is visible
      have hvisible : p ∈ f.visibleParams kind := by
        refine (mem_visibleParams_or_isHandle hreceiver hp (by rw [htype]; rfl)).resolve_right ?_
        simp [htype, CType.isHandle]
      exact (succeeds_locals_iff s p.name signature).2
        ⟨hpaired.endsInUserData hp htype, (accepted_iff.1 (h p hvisible)).2.2 signature htype⟩
    · rcases mem_visibleParams_or_isHandle hreceiver hp hdata with hp | hhandle
      · exact (h p hp).isHandedOn
      · cases htype : p.type with
        | handle name => rfl
        | _ => simp [htype, CType.isHandle] at hhandle

/-! ## Results and contexts -/

theorem succeeds_returnType_iff (s : Settings) (c : ObjectClass) (f : CFunction) :
    Succeeds (s.returnType c f) ↔ f.returnType.Translatable := by
  rw [← succeeds_cpp_iff s f.returnType, ← and_true (Succeeds (f.returnType.cpp s))]
  refine succeeds_bind_iff fun type _ => iff_of_true ?_ trivial
  split
  · exact ⟨_, rfl⟩
  · exact ⟨_, rfl⟩

theorem succeeds_resultType_iff :
    Succeeds (s.resultType c m) ↔ (m.kind ≠ .constructor → m.function.returnType.Translatable) := by
  rw [← succeeds_returnType_iff s c m.function]
  unfold Settings.resultType
  cases m.kind with
  | constructor => exact iff_of_true ⟨_, rfl⟩ fun h => absurd rfl h
  | _ => simpa using succeeds_bind_pure_iff

theorem succeeds_conversion_iff :
    Succeeds (m.conversion s c) ↔ (m.kind ≠ .constructor → m.function.returnType.Translatable) := by
  rw [← succeeds_returnType_iff s c m.function]
  unfold Member.conversion
  cases m.kind with
  | constructor => exact iff_of_true ⟨_, rfl⟩ fun h => absurd rfl h
  | _ => simpa using succeeds_bind_pure_iff

/-- A context is missing exactly if there is no receiver, no object and no context, and a failure
    would have to be reported. -/
theorem lacksContext_eq_false_iff :
    m.lacksContext s = false ↔ (s.exceptions = true →
      m.kind = .constructor ∨ m.kind = .staticMethod ∧ m.function.returnType.tellsFailure = true →
        ∃ p ∈ m.function.params, p.type.isContext = true ∨ p.type.isHandle = true) := by
  unfold Member.lacksContext Member.context?
  cases hs : s.exceptions with
  | false => simp
  | true =>
      have hcontext : m.function.errorContext? m.kind = none ↔ m.kind.hasReceiver = false ∧
          ¬ ∃ p ∈ m.function.params, p.type.isContext = true ∨ p.type.isHandle = true := by
        rw [errorContext?_eq_none_iff]
        refine and_congr_right fun _ => ?_
        push Not
        simp only [Bool.not_eq_true, and_comm]
      rw [if_pos rfl, Bool.true_and, Bool.and_eq_false_imp, Option.isNone_iff_eq_none, hcontext,
        needsContext_eq_false_iff, forall_prop_of_true rfl]
      by_cases hreach : ∃ p ∈ m.function.params, p.type.isContext = true ∨ p.type.isHandle = true
      · exact iff_of_true (fun h => absurd hreach h.2) fun _ => hreach
      · cases m.kind with
        | constructor => simp [hreach, MethodKind.hasReceiver]
        | staticMethod => simp [hreach, MethodKind.hasReceiver]
        | instanceMethod => simp [MethodKind.hasReceiver]

/-! ## Members, classes and tables -/

/-- **A member is defined exactly if its function can be wrapped.** -/
theorem succeeds_memberDefinition_iff_wrappable (hpaired : Paired m.function.params)
    (hreceiver : m.function.BindsReceiver m.kind) :
    Succeeds (memberDefinition s c m) ↔ m.function.Wrappable m.kind s.exceptions := by
  have hparams := succeeds_params_iff (s := s) hpaired hreceiver
  have hvisible : (∀ p ∈ m.function.visibleParams m.kind, p.type.Accepted) ↔
      ∀ p ∈ m.function.params.drop (if m.kind = .instanceMethod then 1 else 0),
        p.type.isUserData = false → p.type.Accepted := by
    simp only [CFunction.visibleParams, List.mem_filter, hasReceiver_eq_true_iff,
      Bool.not_eq_true', and_imp]
  rw [succeeds_memberDefinition_iff, succeeds_signature_iff, succeeds_memberBody_iff,
    succeeds_resultType_iff, succeeds_conversion_iff, lacksContext_eq_false_iff]
  constructor
  · rintro ⟨⟨hresult, hdeclarations⟩, hcontext, hlocals, hargs, _⟩
    exact ⟨hvisible.1 (hparams.1 ⟨hdeclarations, hlocals, hargs⟩), hresult, hcontext⟩
  · rintro ⟨haccepted, hresult, hcontext⟩
    obtain ⟨hdeclarations, hlocals, hargs⟩ := hparams.2 (hvisible.2 haccepted)
    exact ⟨⟨hresult, hdeclarations⟩, hcontext, hlocals, hargs, hresult⟩

theorem succeeds_operators_iff :
    Succeeds (operators s c) ↔
      (s.extensions = true → ∀ hook, c.equality = some hook → hook.returnType.Translatable) := by
  unfold operators
  cases hs : s.extensions with
  | false => exact iff_of_true ⟨_, rfl⟩ fun h => absurd h Bool.false_ne_true
  | true =>
      rw [if_pos rfl, succeeds_bind_pure_iff, forall_prop_of_true rfl]
      unfold equalityOperator
      cases c.equality with
      | none => exact iff_of_true ⟨_, rfl⟩ (by simp)
      | some hook =>
          simp only [succeeds_attributed_iff, Option.some.injEq, forall_eq']
          exact succeeds_bind_pure_iff.trans (succeeds_cpp_iff s hook.returnType)

/-- A class is implemented exactly if all of its members and operators are defined. -/
theorem succeeds_classImplementation_iff :
    Succeeds (classImplementation s c) ↔
      (∀ m ∈ c.constructorMembers, Succeeds (memberDefinition s c m)) ∧
      Succeeds (operators s c) ∧ ∀ m ∈ c.methodMembers, Succeeds (memberDefinition s c m) := by
  rw [← succeeds_mapM_iff, ← succeeds_mapM_iff]
  exact succeeds_bind_iff fun _ _ => succeeds_bind_iff fun _ _ => succeeds_bind_pure_iff

/-- **A class of a table is implemented exactly if it can be generated.** -/
theorem succeeds_classImplementation_iff_generatable (hc : c ∈ t.toList) :
    Succeeds (classImplementation s c) ↔ c.Generatable s.exceptions s.extensions := by
  have hconstructors : (∀ m ∈ c.constructorMembers, Succeeds (memberDefinition s c m)) ↔
      ∀ f ∈ c.constructors, f.Wrappable .constructor s.exceptions := by
    unfold ObjectClass.constructorMembers
    rw [List.forall_mem_map]
    refine forall₂_congr fun f hf => succeeds_memberDefinition_iff_wrappable ?_ ?_
    · exact t.paired_of_mem hc (List.mem_append_left _ hf)
    · exact fun h => absurd h Bool.false_ne_true
  have hmethods : (∀ m ∈ c.methodMembers, Succeeds (memberDefinition s c m)) ↔
      ∀ group ∈ c.methods.entries, ∀ f ∈ group.2,
        f.Wrappable (c.methodKind f) s.exceptions := by
    unfold ObjectClass.methodMembers
    rw [List.forall_mem_flatMap]
    refine forall₂_congr fun group hgroup => ?_
    rw [List.forall_mem_map]
    refine forall₂_congr fun f hf => succeeds_memberDefinition_iff_wrappable ?_ ?_
    · have hmem : f ∈ c.methods.values.flatten :=
        List.mem_flatten.2 ⟨group.2, List.mem_map_of_mem hgroup, hf⟩
      exact t.paired_of_mem hc (List.mem_append_right _ hmem)
    · exact bindsReceiver_of_methodKind id
  rw [succeeds_classImplementation_iff, hconstructors, hmethods, succeeds_operators_iff]
  constructor
  · rintro ⟨hconstructors, hequality, hmethods⟩
    exact ⟨hconstructors, hmethods, hequality⟩
  · rintro ⟨hconstructors, hmethods, hequality⟩
    exact ⟨hconstructors, hequality, hmethods⟩

/-- The first pass fails at no class that the second one gets through. -/
theorem succeeds_header_iff :
    Succeeds (header s t) ↔ ∀ c ∈ t.toList, Succeeds (classImplementation s c) := by
  have hparts : Succeeds (header s t) ↔
      Succeeds (declarations s t) ∧ Succeeds (implementations s t) :=
    succeeds_bind_iff fun _ _ => succeeds_bind_pure_iff
  rw [hparts, declarations, implementations, succeeds_bind_pure_iff, succeeds_bind_pure_iff,
    succeeds_mapM_iff, succeeds_mapM_iff]
  refine and_iff_right_of_imp fun h c hc => ?_
  obtain ⟨implementation, himplementation⟩ := h c hc
  obtain ⟨_, _, declaration, hdeclaration, _⟩ :=
    sameMembers_of_classImplementation (t := t) himplementation
  exact ⟨declaration, hdeclaration⟩

theorem succeeds_generate_iff (s : Settings) (t : ClassTable) :
    Succeeds (generate s t) ↔ ∀ c ∈ t.toList, c.Generatable s.exceptions s.extensions := by
  rw [generate, succeeds_bind_pure_iff, succeeds_header_iff]
  exact forall₂_congr fun c hc => succeeds_classImplementation_iff_generatable hc

/-- **A table is generated exactly if its classes can be,** and whether they can be is up to the two
    switches of the settings. -/
theorem generate_accepts (s : Settings) (t : ClassTable) :
    ((∃ text, generate s t = .ok text) ↔
      ∀ c ∈ t.toList, c.Generatable s.exceptions s.extensions) ∧
    ∀ other : Settings,
      (∃ text, generate { other with exceptions := s.exceptions, extensions := s.extensions } t =
        .ok text) ↔ ∃ text, generate s t = .ok text := by
  refine ⟨succeeds_generate_iff s t, fun other => ?_⟩
  exact (succeeds_generate_iff _ t).trans (succeeds_generate_iff s t).symm

end HandleWrap
