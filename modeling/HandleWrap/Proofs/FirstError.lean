import HandleWrap.Header
import HandleWrap.Proofs.Failure
import HandleWrap.Proofs.Member

set_option autoImplicit false

/-! # Which error is reported

A run looks at every function twice: first all declarations are made, class by class, and then all
implementations. It ends at the first piece of work that fails, so a function that cannot be
declared is reported before all that cannot be defined, wherever they stand.
`generate_eq_error_iff_first` says at which function a run ends. The error carries the name of that
function and a reason, and is never attributed twice. -/

namespace HandleWrap

/-- What the work on a function can fail for. -/
inductive GenerationError.Reason (exceptions : Bool) : GenerationError → Prop where
  | unsupportedType (type : String) : Reason exceptions (.unsupportedType type)
  | malformedCallback (param reason : String) : Reason exceptions (.malformedCallback param reason)
  /-- Without exceptions no failure is reported to a context. -/
  | missingContext (h : exceptions = true) : Reason exceptions .missingContext

/-- A part of an implementation that can fail. -/
inductive Definition where
  /-- The definition of a constructor or method. -/
  | member (m : Member)
  /-- The operator that the equality hook asks for. -/
  | equality (hook : CFunction)

namespace Definition

/-- The function that the definition is about. -/
def function : Definition → CFunction
  | member m => m.function
  | equality hook => hook

/-- The text of the definition on the class `c`. -/
def code (s : Settings) (c : ObjectClass) : Definition → Except GenerationError Code
  | member m => memberDefinition s c m
  | equality _ => equalityOperator s c

end Definition

/-- The definitions of a class in the order of its implementation. The operators, which only come
    with extensions, stand between the constructors and the methods. -/
def ObjectClass.definitions (c : ObjectClass) (s : Settings) : List Definition :=
  c.constructorMembers.map .member ++
    (if s.extensions then c.equality.toList.map .equality else []) ++
    c.methodMembers.map .member

namespace ClassTable

/-- The functions that are declared, each with its class: in order of the class keys, constructors
    before methods, the groups of overloads in order of their names. -/
def members (t : ClassTable) : List (ObjectClass × Member) :=
  t.toList.flatMap fun c => (c.constructorMembers ++ c.methodMembers).map (c, ·)

/-- What is defined, each definition with its class, in order of the class keys. -/
def definitions (t : ClassTable) (s : Settings) : List (ObjectClass × Definition) :=
  t.toList.flatMap fun c => (c.definitions s).map (c, ·)

end ClassTable

/-- The first pass over a function. -/
def declareOn (s : Settings) (t : ClassTable) (x : ObjectClass × Member) :
    Except GenerationError Code :=
  memberDeclaration s t x.1 x.2

/-- The second pass over a definition. -/
def defineOn (s : Settings) (x : ObjectClass × Definition) : Except GenerationError Code :=
  x.2.code s x.1

variable {s : Settings} {t : ClassTable} {c : ObjectClass} {e : GenerationError}

/-! ## Reasons -/

theorem failsWith_cpp (s : Settings) (type : CType) :
    FailsWith (GenerationError.Reason s.exceptions) (type.cpp s) := by
  induction type using CType.inductionOn with
  | plain type h =>
      cases type with
      | callback signature => cases h
      | userData => exact failsWith_error (.unsupportedType _)
      | other spelling => exact failsWith_error (.unsupportedType _)
      | _ => exact failsWith_ok _
  | callback signature hresult hargs =>
      rw [CType.cpp, Callback.cpp_eq]
      refine hresult.bind fun result => FailsWith.bind_pure ?_ _
      exact failsWith_mapM fun arg harg => hargs arg (Callback.mem_args_of_mem_publicArgs harg)

theorem failsWith_inC (s : Settings) (type : CType) :
    FailsWith (GenerationError.Reason s.exceptions) (type.inC s) := by
  cases type with
  | callback signature => exact failsWith_error (.unsupportedType _)
  | _ => exact failsWith_ok _

theorem failsWith_classify (s : Settings) (type : CType) (ownership : Ownership) :
    FailsWith (GenerationError.Reason s.exceptions) (type.classify s ownership) := by
  refine (failsWith_cpp s type).bind fun name => ?_
  split
  · exact failsWith_pure _
  · exact failsWith_error (.unsupportedType _)

theorem failsWith_declaration (s : Settings) (p : Param) :
    FailsWith (GenerationError.Reason s.exceptions) (p.declaration s) := by
  intro e he
  cases hclassify : p.type.classify s p.ownership with
  | error cause =>
      obtain rfl : cause = e := by
        simpa [Param.declaration, hclassify, bind, Except.bind] using he
      exact failsWith_classify s p.type p.ownership cause hclassify
  | ok result =>
      rw [declaration_of_classify hclassify] at he
      split at he
      · cases he
        exact .unsupportedType _
      · cases he

theorem failsWith_uses (s : Settings) (source : Source) (p : Param) :
    FailsWith (GenerationError.Reason s.exceptions) (p.uses s source) := by
  unfold Param.uses
  cases p.type with
  | stat | userData | other => exact failsWith_error (.unsupportedType _)
  | _ => exact failsWith_ok _

theorem failsWith_rawParams (s : Settings) (name : String) (signature : Callback) :
    FailsWith (GenerationError.Reason s.exceptions) (signature.rawParams s name) := by
  unfold Callback.rawParams
  split
  · exact failsWith_mapM fun x _ => (failsWith_inC s x.1.type).bind_pure _
  · exact failsWith_error (.malformedCallback _ _)

theorem failsWith_closureArg (s : Settings) (name : String) (i : Nat) (arg : CallbackArg) :
    FailsWith (GenerationError.Reason s.exceptions) (Callback.closureArg s name i arg) := by
  unfold Callback.closureArg
  cases arg.type with
  | bool | stat | callback | userData | other => exact failsWith_error (.malformedCallback _ _)
  | _ => exact failsWith_ok _

theorem failsWith_locals (s : Settings) (name : String) (signature : Callback) :
    FailsWith (GenerationError.Reason s.exceptions) (signature.locals s name) := by
  have hholder : FailsWith (GenerationError.Reason s.exceptions) (signature.holder s name) :=
    (failsWith_cpp s (.callback signature)).bind_pure _
  have htrampoline : FailsWith (GenerationError.Reason s.exceptions)
      (signature.trampoline s name) := by
    refine (failsWith_rawParams s name signature).bind fun params => ?_
    refine (failsWith_inC s signature.result).bind fun result => ?_
    refine (failsWith_mapM fun x _ => failsWith_closureArg s name x.2 x.1).bind fun args => ?_
    split
    · exact failsWith_pure _
    · exact failsWith_error (.malformedCallback _ _)
  exact hholder.bind fun holder => htrampoline.bind_pure _

theorem failsWith_returnType (s : Settings) (c : ObjectClass) (f : CFunction) :
    FailsWith (GenerationError.Reason s.exceptions) (s.returnType c f) := by
  refine (failsWith_cpp s f.returnType).bind fun type => ?_
  split
  · exact failsWith_pure _
  · exact failsWith_pure _

theorem failsWith_signature (s : Settings) (c : ObjectClass) (m : Member) :
    FailsWith (GenerationError.Reason s.exceptions) (s.signature c m) := by
  rw [signature_eq]
  refine FailsWith.bind ?_ fun result => FailsWith.bind_pure ?_ _
  · unfold Settings.resultType
    split
    · exact failsWith_pure _
    · exact (failsWith_returnType s c m.function).bind_pure _
  · exact failsWith_mapM fun p _ => failsWith_declaration s p

theorem failsWith_memberBody (s : Settings) (c : ObjectClass) (m : Member) :
    FailsWith (GenerationError.Reason s.exceptions) (memberBody s c m) := by
  rw [memberBody_eq]
  split
  · next hlacks =>
      -- a context is looked for with exceptions on only
      unfold Member.lacksContext at hlacks
      simp only [Bool.and_eq_true] at hlacks
      exact failsWith_error (.missingContext hlacks.1.1)
  · refine FailsWith.bind ?_ fun callbackLocals => FailsWith.bind ?_ fun args =>
      FailsWith.bind_pure ?_ _
    · exact failsWith_mapM fun callback _ => failsWith_locals s callback.1.name callback.2
    · exact FailsWith.bind_pure (failsWith_mapM fun x _ => failsWith_uses s x.1 x.2) _
    · unfold Member.conversion
      split
      · exact failsWith_pure _
      · exact (failsWith_returnType s c m.function).bind_pure _

/-! ## Attribution -/

/-- The work fails for a reason that is attributed to the function. -/
def Blames {α : Type} (s : Settings) (f : CFunction) (work : Except GenerationError α) : Prop :=
  FailsWith (fun e => ∃ cause, e = .function f.name cause ∧ cause.Reason s.exceptions) work

theorem blames_attributed {α : Type} {f : CFunction} {work : Except GenerationError α}
    (h : FailsWith (GenerationError.Reason s.exceptions) work) :
    Blames s f (attributed f.name work) := by
  intro e he
  obtain ⟨cause, hcause, rfl⟩ := attributed_eq_error_iff.1 he
  have hreason := h cause hcause
  refine ⟨cause, ?_, hreason⟩
  cases hreason <;> rfl

theorem blames_memberDeclaration (s : Settings) (t : ClassTable) (c : ObjectClass) (m : Member) :
    Blames s m.function (memberDeclaration s t c m) :=
  blames_attributed ((failsWith_signature s c m).bind_pure _)

theorem blames_memberDefinition (s : Settings) (c : ObjectClass) (m : Member) :
    Blames s m.function (memberDefinition s c m) :=
  blames_attributed
    ((failsWith_signature s c m).bind fun _ => (failsWith_memberBody s c m).bind_pure _)

theorem blames_code {d : Definition} (hd : d ∈ c.definitions s) :
    Blames s d.function (d.code s c) := by
  cases d with
  | member m => exact blames_memberDefinition s c m
  | equality hook =>
      have hhook : c.equality = some hook := by
        simp only [ObjectClass.definitions, List.mem_append, List.mem_map, reduceCtorEq, and_false,
          exists_false, false_or, or_false] at hd
        split at hd
        · simpa using hd
        · cases hd
      unfold Definition.code equalityOperator
      rw [hhook]
      exact blames_attributed ((failsWith_cpp s hook.returnType).bind_pure _)

/-! ## Both passes -/

/-- A declaration fails at the first member that does. -/
theorem failsLike_classDeclaration (s : Settings) (t : ClassTable) (c : ObjectClass) :
    FailsLike (classDeclaration s t c) (memberDeclaration s t c)
      (c.constructorMembers ++ c.methodMembers) := by
  have hmembers : ∀ members, FailsLike (memberDeclarations s t c members)
      (memberDeclaration s t c) members := fun members =>
    (failsLike_mapM_self (memberDeclaration s t c) members).bind_pure _
  exact (hmembers _).bind fun constructors => (hmembers _).bind_pure _

/-- An implementation fails at the first definition that does. -/
theorem failsLike_classImplementation (s : Settings) (c : ObjectClass) :
    FailsLike (classImplementation s c) (Definition.code s c) (c.definitions s) := by
  have hmembers : ∀ members : List Member, FailsLike (members.mapM (memberDefinition s c))
      (Definition.code s c) (members.map .member) := fun members =>
    FailsLike.map _ _ (failsLike_mapM_self (memberDefinition s c) members)
  have hoperators : FailsLike (operators s c) (Definition.code s c)
      (if s.extensions then c.equality.toList.map .equality else []) := by
    unfold operators
    split
    · refine FailsLike.bind_pure ?_ _
      cases hhook : c.equality with
      | none =>
          rw [equalityOperator, hhook]
          exact failsLike_ok []
      | some hook => exact failsLike_part (Definition.code s c) (.equality hook)
    · exact failsLike_ok []
  rw [ObjectClass.definitions, List.append_assoc]
  exact (hmembers _).bind fun constructors => hoperators.bind fun operators =>
    (hmembers _).bind_pure _

theorem failsLike_declarations (s : Settings) (t : ClassTable) :
    FailsLike (declarations s t) (declareOn s t) t.members := by
  have hclass : ∀ c : ObjectClass, FailsLike (classDeclaration s t c) (declareOn s t)
      ((c.constructorMembers ++ c.methodMembers).map (c, ·)) := fun c =>
    FailsLike.map (declareOn s t) (c, ·) (failsLike_classDeclaration s t c)
  exact (failsLike_mapM hclass t.toList).bind_pure _

theorem failsLike_implementations (s : Settings) (t : ClassTable) :
    FailsLike (implementations s t) (defineOn s) (t.definitions s) := by
  have hclass : ∀ c : ObjectClass, FailsLike (classImplementation s c) (defineOn s)
      ((c.definitions s).map (c, ·)) := fun c =>
    FailsLike.map (defineOn s) (c, ·) (failsLike_classImplementation s c)
  exact (failsLike_mapM hclass t.toList).bind_pure _

/-- A run fails in the first pass, or gets through it and fails in the second one. -/
theorem generate_eq_error_iff :
    generate s t = .error e ↔ (∃ x, FirstFailure (declareOn s t) t.members x e) ∨
      (∀ x ∈ t.members, Succeeds (declareOn s t x)) ∧
        ∃ x, FirstFailure (defineOn s) (t.definitions s) x e := by
  have hfirst := failsLike_declarations s t
  rw [generate, bind_pure_eq_error_iff, header, ← hfirst e, ← hfirst.succeeds_iff,
    ← failsLike_implementations s t e]
  exact bind_eq_error_iff_or fun declarations => bind_pure_eq_error_iff

/-- The definitions of a table are definitions of its classes. -/
theorem ClassTable.mem_definitions {d : Definition} (h : (c, d) ∈ t.definitions s) :
    d ∈ c.definitions s := by
  obtain ⟨c', _, hmem⟩ := List.mem_flatMap.1 h
  obtain ⟨d', hd', heq⟩ := List.mem_map.1 hmem
  obtain ⟨rfl, rfl⟩ := Prod.mk.inj heq
  exact hd'

/-- **A run fails at the first function that cannot be declared, if there is one,** and else at the
    first definition that cannot be made. The error carries the name of that function and a
    reason. -/
theorem generate_eq_error_iff_first (s : Settings) (t : ClassTable) (e : GenerationError) :
    generate s t = .error e ↔ ∃ f cause, e = .function f.name cause ∧ cause.Reason s.exceptions ∧
      ((∃ c m, m.function = f ∧ FirstFailure (declareOn s t) t.members (c, m) e) ∨
        (∀ x ∈ t.members, Succeeds (declareOn s t x)) ∧
          ∃ c d, d.function = f ∧ FirstFailure (defineOn s) (t.definitions s) (c, d) e) := by
  rw [generate_eq_error_iff]
  constructor
  · rintro (⟨⟨c, m⟩, h⟩ | ⟨hdeclared, ⟨c, d⟩, h⟩)
    · obtain ⟨cause, he, hreason⟩ := blames_memberDeclaration s t c m e h.eq_error
      exact ⟨m.function, cause, he, hreason, Or.inl ⟨c, m, rfl, h⟩⟩
    · have hd : d ∈ c.definitions s := ClassTable.mem_definitions h.mem
      obtain ⟨cause, he, hreason⟩ := blames_code hd e h.eq_error
      exact ⟨d.function, cause, he, hreason, Or.inr ⟨hdeclared, c, d, rfl, h⟩⟩
  · rintro ⟨_, _, _, _, ⟨c, m, _, h⟩ | ⟨hdeclared, c, d, _, h⟩⟩
    · exact Or.inl ⟨(c, m), h⟩
    · exact Or.inr ⟨hdeclared, (c, d), h⟩

/-- The class `isl_a` has a method that cannot be defined, for want of a context. Still the method
    of `isl_b` is reported, which cannot be declared. -/
example : ∃ t, ClassTable.ofClasses
      [(ObjectClass.named "isl_a").withMethod "check"
          ((CFunction.named "isl_a_check").returning .stat),
        (ObjectClass.named "isl_b").withMethod "dump"
          ((CFunction.named "isl_b_dump").withParam ⟨"out", .other "FILE *", .keep⟩)] = .ok t ∧
    generate .standard t = .error (.function "isl_b_dump" (.unsupportedType "FILE *")) :=
  ⟨_, rfl, rfl⟩

end HandleWrap
