import HandleWrap.Proofs.Output
import HandleWrap.Proofs.Member
import HandleWrap.Proofs.TableAcceptance
import HandleWrap.Proofs.Translation

set_option autoImplicit false

/-! # What the extensions touch

The switch for extensions is asked where a context or an enumeration is spelled, passed or returned,
and where a hook becomes an operator. Whatever mentions neither type (`CType.Unextended`) and asks
for no operator is made alike on both sides of the switch. There is one lemma for each function that
hands the settings on, from types up to the whole output (`generate_withExtensions`); every lemma
says that turning the switch changes nothing, so that they chain by rewriting. -/

namespace HandleWrap

variable {s : Settings} {t : ClassTable} {c : ObjectClass} {m : Member}

/-- The settings with the switch for extensions set. -/
def Settings.withExtensions (s : Settings) (extensions : Bool) : Settings :=
  { s with extensions }

/-! ## What mentions no context and no enumeration -/

/-- The type is no context and no enumeration, and a callback has none in its signature. -/
inductive CType.Unextended : CType → Prop where
  | handle (name : String) : Unextended (.handle name)
  | bool : Unextended .bool
  | stat : Unextended .stat
  | integer (name : String) : Unextended (.integer name)
  | string : Unextended .string
  | callback {signature : Callback} (hresult : signature.result.Unextended)
      (hargs : ∀ arg ∈ signature.args, arg.type.Unextended) : Unextended (.callback signature)
  | userData : Unextended .userData
  | other (spelling : String) : Unextended (.other spelling)

/-- The same of a callback: of its result and all of its raw arguments. -/
structure Callback.Unextended (signature : Callback) : Prop where
  result : signature.result.Unextended
  args : ∀ arg ∈ signature.args, arg.type.Unextended

/-- The same of a function: of its result and its parameters. -/
structure CFunction.Unextended (f : CFunction) : Prop where
  result : f.returnType.Unextended
  params : ∀ p ∈ f.params, p.type.Unextended

/-- No constructor and no method mentions a context or an enumeration, and there are no hooks. -/
structure ObjectClass.Unextended (c : ObjectClass) : Prop where
  functions : ∀ f ∈ c.functions, f.Unextended
  stringify : c.stringify = none
  equality : c.equality = none

theorem CType.Unextended.signature {signature : Callback}
    (h : (CType.callback signature).Unextended) : signature.Unextended := by
  cases h with
  | callback hresult hargs => exact ⟨hresult, hargs⟩

theorem CFunction.Unextended.callbacks {f : CFunction} (h : f.Unextended) :
    ∀ callback ∈ f.callbacks, callback.2.Unextended := by
  intro callback hcallback
  obtain ⟨p, hp, hsignature⟩ := List.mem_filterMap.1 hcallback
  obtain ⟨signature, htype, rfl⟩ := Option.map_eq_some_iff.1 hsignature
  have hcases : p.type = .callback signature := by
    cases hkind : p.type with
    | callback other => rw [hkind] at htype; exact congrArg _ (Option.some.inj htype)
    | _ => rw [hkind] at htype; cases htype
  have hparam := h.params p hp
  rw [hcases] at hparam
  exact hparam.signature

theorem ObjectClass.Unextended.members (h : c.Unextended) :
    ∀ m ∈ c.constructorMembers ++ c.methodMembers, m.function.Unextended := by
  intro m hm
  refine h.functions _ ?_
  rcases List.mem_append.1 hm with hm | hm
  · obtain ⟨f, hf, rfl⟩ := List.mem_map.1 hm
    exact List.mem_append_left _ hf
  · obtain ⟨group, hgroup, hm⟩ := List.mem_flatMap.1 hm
    obtain ⟨f, hf, rfl⟩ := List.mem_map.1 hm
    exact List.mem_append_right _ (List.mem_flatten.2 ⟨_, List.mem_map_of_mem hgroup, hf⟩)

/-! ## Types -/

theorem cpp_withExtensions {type : CType} (h : type.Unextended) (extensions : Bool) :
    type.cpp (s.withExtensions extensions) = type.cpp s := by
  induction type using CType.inductionOn with
  | plain type hplain =>
      cases h with
      | callback => cases hplain
      | _ => rfl
  | callback signature hresult hargs =>
      have hpublic : signature.publicArgs.mapM (·.type.cpp (s.withExtensions extensions)) =
          signature.publicArgs.mapM (·.type.cpp s) :=
        mapM_congr fun arg harg =>
          have harg := Callback.mem_args_of_mem_publicArgs harg
          hargs arg harg (h.signature.args arg harg)
      rw [CType.cpp, CType.cpp, Callback.cpp_eq, Callback.cpp_eq, hresult h.signature.result,
        hpublic]

theorem Callback.Unextended.cpp_withExtensions {signature : Callback} (h : signature.Unextended)
    (extensions : Bool) : signature.cpp (s.withExtensions extensions) = signature.cpp s :=
  HandleWrap.cpp_withExtensions (.callback h.result h.args) extensions

/-! ## Parameters -/

theorem declaration_withExtensions {p : Param} (h : p.type.Unextended) (extensions : Bool) :
    p.declaration (s.withExtensions extensions) = p.declaration s := by
  have hcontext : p.type.isContext = false := by
    obtain ⟨name, type, ownership⟩ := p
    cases h <;> rfl
  simp only [Param.declaration, CType.classify, cpp_withExtensions h, hcontext, Bool.false_and]

theorem uses_withExtensions {p : Param} (h : p.type.Unextended) (extensions : Bool)
    (source : Source) : p.uses (s.withExtensions extensions) source = p.uses s source := by
  obtain ⟨name, type, ownership⟩ := p
  cases h <;> rfl

/-! ## Callbacks -/

theorem closureArg_withExtensions {arg : CallbackArg} (h : arg.type.Unextended) (extensions : Bool)
    (name : String) (i : Nat) :
    Callback.closureArg (s.withExtensions extensions) name i arg =
      Callback.closureArg s name i arg := by
  obtain ⟨type, ownership⟩ := arg
  cases h <;> rfl

theorem locals_withExtensions {signature : Callback} (h : signature.Unextended) (extensions : Bool)
    (name : String) :
    signature.locals (s.withExtensions extensions) name = signature.locals s name := by
  have hclosure : signature.closureArgs (s.withExtensions extensions) name =
      signature.closureArgs s name :=
    mapM_congr fun x hx =>
      have harg := Callback.mem_args_of_mem_publicArgs (List.fst_mem_of_mem_zipIdx hx)
      closureArg_withExtensions (h.args x.1 harg) extensions name x.2
  have hholder : signature.holder (s.withExtensions extensions) name = signature.holder s name := by
    rw [Callback.holder, h.cpp_withExtensions]
    rfl
  have htrampoline : signature.trampoline (s.withExtensions extensions) name =
      signature.trampoline s name := by
    rw [Callback.trampoline, hclosure]
    rfl
  rw [Callback.locals, hholder, htrampoline]
  rfl

/-! ## Members -/

theorem returnType_withExtensions (h : m.function.Unextended) (extensions : Bool) :
    (s.withExtensions extensions).returnType c m.function = s.returnType c m.function := by
  rw [Settings.returnType, cpp_withExtensions h.result]
  rfl

theorem signature_withExtensions (h : m.function.Unextended) (extensions : Bool) :
    (s.withExtensions extensions).signature c m = s.signature c m := by
  have hresult : (s.withExtensions extensions).resultType c m = s.resultType c m := by
    unfold Settings.resultType
    rw [returnType_withExtensions h]
  have hparams : (m.function.visibleParams m.kind).mapM
      (Param.declaration (s.withExtensions extensions)) =
      (m.function.visibleParams m.kind).mapM (Param.declaration s) :=
    mapM_congr fun p hp =>
      declaration_withExtensions (h.params p (mem_params_of_mem_visibleParams hp)) extensions
  rw [signature_eq, signature_eq, hresult, hparams]
  rfl

theorem callArgs_withExtensions {f : CFunction} (h : f.Unextended) (extensions : Bool)
    (kind : MethodKind) : f.callArgs (s.withExtensions extensions) kind = f.callArgs s kind := by
  have huses : ((f.sources kind).filter fun x => !x.2.type.isUserData).mapM
      (fun x => x.2.uses (s.withExtensions extensions) x.1) =
      ((f.sources kind).filter fun x => !x.2.type.isUserData).mapM fun x => x.2.uses s x.1 :=
    mapM_congr fun x hx => by
      have hparam : x.2 ∈ f.params := by
        rw [← sources_map_snd f kind]
        exact List.mem_map_of_mem (List.mem_of_mem_filter hx)
      exact uses_withExtensions (h.params x.2 hparam) extensions x.1
  exact congrArg (· >>= fun uses => pure uses.flatten) huses

theorem resultLines_withExtensions {f : CFunction} (h : f.returnType.Unextended)
    (extensions : Bool) : resultLines (s.withExtensions extensions) f = resultLines s f := by
  obtain ⟨name, type, givesResult, params⟩ := f
  cases h <;> rfl

theorem conversion_withExtensions (h : m.function.Unextended) (extensions : Bool) :
    m.conversion (s.withExtensions extensions) c = m.conversion s c := by
  unfold Member.conversion
  rw [returnType_withExtensions h, resultLines_withExtensions h.result]

theorem memberBody_withExtensions (h : m.function.Unextended) (extensions : Bool) :
    memberBody (s.withExtensions extensions) c m = memberBody s c m := by
  have hlocals : m.function.callbacks.mapM (fun callback =>
      callback.2.locals (s.withExtensions extensions) callback.1.name) =
      m.function.callbacks.mapM fun callback => callback.2.locals s callback.1.name :=
    mapM_congr fun callback hcallback =>
      locals_withExtensions (h.callbacks callback hcallback) extensions callback.1.name
  rw [memberBody_eq, memberBody_eq, hlocals, callArgs_withExtensions h,
    conversion_withExtensions h]
  rfl

theorem memberDeclaration_withExtensions (h : m.function.Unextended) (extensions : Bool) :
    memberDeclaration (s.withExtensions extensions) t c m = memberDeclaration s t c m := by
  rw [memberDeclaration, signature_withExtensions h]
  rfl

theorem memberDefinition_withExtensions (h : m.function.Unextended) (extensions : Bool) :
    memberDefinition (s.withExtensions extensions) c m = memberDefinition s c m := by
  rw [memberDefinition, signature_withExtensions h, memberBody_withExtensions h]
  rfl

/-! ## Classes and tables -/

theorem operators_of_unextended (h : c.Unextended) (s : Settings) : operators s c = .ok [] := by
  unfold operators equalityOperator streamOperator
  rw [h.equality, h.stringify]
  split <;> rfl

theorem classDeclaration_withExtensions (h : c.Unextended) (extensions : Bool) :
    classDeclaration (s.withExtensions extensions) t c = classDeclaration s t c := by
  have hmembers : ∀ members ⊆ c.constructorMembers ++ c.methodMembers,
      memberDeclarations (s.withExtensions extensions) t c members =
        memberDeclarations s t c members := by
    intro members hsubset
    rw [memberDeclarations, mapM_congr fun m hm =>
      memberDeclaration_withExtensions (h.members m (hsubset hm)) extensions]
    rfl
  rw [classDeclaration, hmembers _ (List.subset_append_left _ _),
    hmembers _ (List.subset_append_right _ _)]
  rfl

theorem classImplementation_withExtensions (h : c.Unextended) (extensions : Bool) :
    classImplementation (s.withExtensions extensions) c = classImplementation s c := by
  have hmembers : ∀ members ⊆ c.constructorMembers ++ c.methodMembers,
      members.mapM (memberDefinition (s.withExtensions extensions) c) =
        members.mapM (memberDefinition s c) := fun members hsubset =>
    mapM_congr fun m hm =>
      memberDefinition_withExtensions (h.members m (hsubset hm)) extensions
  rw [classImplementation, hmembers _ (List.subset_append_left _ _),
    hmembers _ (List.subset_append_right _ _), operators_of_unextended h,
    ← operators_of_unextended h s]
  rfl

theorem header_withExtensions (h : ∀ c ∈ t.toList, c.Unextended) (extensions : Bool) :
    header (s.withExtensions extensions) t = header s t := by
  have hdeclarations : declarations (s.withExtensions extensions) t = declarations s t := by
    rw [declarations, mapM_congr fun c hc => classDeclaration_withExtensions (h c hc) extensions]
    rfl
  have himplementations : implementations (s.withExtensions extensions) t =
      implementations s t := by
    rw [implementations,
      mapM_congr fun c hc => classImplementation_withExtensions (h c hc) extensions]
    rfl
  rw [header, hdeclarations, himplementations]
  rfl

/-- **The extensions affect only what they name:** where no function mentions a context or an
    enumeration and no class has a hook, both sides of the switch give the same text or the same
    error. -/
theorem generate_withExtensions (s : Settings) (t : ClassTable)
    (h : ∀ c ∈ t.toList, c.Unextended) :
    generate (s.withExtensions true) t = generate (s.withExtensions false) t := by
  rw [generate, generate, header_withExtensions h, header_withExtensions h]

theorem unionMap_unextended : unionMap.Unextended := by
  refine ⟨fun f hf => ?_, rfl, rfl⟩
  obtain rfl := List.mem_singleton.1 hf
  refine ⟨.stat, fun p hp => ?_⟩
  simp only [foreachMap, List.mem_cons, List.not_mem_nil, or_false] at hp
  rcases hp with rfl | rfl | rfl
  · exact .handle _
  · refine .callback .stat fun arg harg => ?_
    simp only [List.mem_cons, List.not_mem_nil, or_false] at harg
    rcases harg with rfl | rfl
    · exact .handle _
    · exact .userData
  · exact .userData

theorem generate_withExtensions_unionMap :
    ∃ t, ClassTable.ofClasses [unionMap, scheduleNodeBand, scheduleNode] = .ok t ∧
      (∀ c ∈ t.toList, c.Unextended) ∧
      generate (Settings.standard.withExtensions true) t =
        generate (Settings.standard.withExtensions false) t := by
  obtain ⟨t, ht⟩ : ∃ t, ClassTable.ofClasses [unionMap, scheduleNodeBand, scheduleNode] = .ok t :=
    ⟨_, rfl⟩
  have hunextended : ∀ c ∈ t.toList, c.Unextended := by
    intro c hc
    have hmem := (holds_of_ofClasses ht).perm.mem_iff.1 hc
    simp only [List.mem_cons, List.not_mem_nil, or_false] at hmem
    rcases hmem with rfl | rfl | rfl
    · exact unionMap_unextended
    · exact ⟨fun f hf => absurd hf List.not_mem_nil, rfl, rfl⟩
    · exact ⟨fun f hf => absurd hf List.not_mem_nil, rfl, rfl⟩
  exact ⟨t, ht, hunextended, generate_withExtensions .standard t hunextended⟩

/-- A context is what the switch changes: an object on one side, a plain pointer on the other. -/
example :
    Param.declaration (Settings.standard.withExtensions true) ⟨"ctx", .context, .keep⟩ =
      .ok "const isl::ctx &ctx" ∧
    Param.declaration (Settings.standard.withExtensions false) ⟨"ctx", .context, .keep⟩ =
      .ok "isl_ctx *ctx" :=
  ⟨rfl, rfl⟩

end HandleWrap
