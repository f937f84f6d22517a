import HandleWrap.Header
import HandleWrap.Proofs.BuiltIns
import HandleWrap.Proofs.Success

set_option autoImplicit false

/-! # What the output is made of

The output holds one declaration and one implementation for each class, in the order of the table,
and both are made of the texts of the members. `header_eq_ok_iff` and the lemmas before it take an
output apart. Texts that stand one after the other in a list of pieces stand one after the other in
the output (`Code.InOrder`). -/

namespace HandleWrap

variable {s : Settings} {t : ClassTable} {c : ObjectClass}

/-! ## Pieces -/

theorem memberDeclarations_eq_ok_iff {members : List Member} {code : Code} :
    memberDeclarations s t c members = .ok code ↔ ∃ pieces,
      List.Forall₂ (fun m piece => memberDeclaration s t c m = .ok piece) members pieces ∧
      code = pieces.flatten := by
  rw [memberDeclarations, bind_pure_eq_ok_iff]
  simp only [mapM_eq_ok_iff]

/-- The declaration of a class around the declarations of its members. -/
theorem classDeclaration_eq_ok_iff {code : Code} :
    classDeclaration s t c = .ok code ↔ ∃ constructors methods,
      memberDeclarations s t c c.constructorMembers = .ok constructors ∧
      memberDeclarations s t c c.methodMembers = .ok methods ∧
      code = (declarationParts s c constructors methods).flatten := by
  rw [classDeclaration, bind_eq_ok_iff]
  refine exists_congr fun constructors => ?_
  rw [bind_pure_eq_ok_iff, exists_and_left]

/-- `EqualityText s c code`: the comparison of a class is `code`, and it calls the method of the
    equality hook. -/
inductive EqualityText (s : Settings) (c : ObjectClass) : Code → Prop where
  | unhooked (hhook : c.equality = none) : EqualityText s c []
  | hooked {hook : CFunction} {result : String} (hhook : c.equality = some hook)
      (hresult : hook.returnType.cpp s = .ok result) :
      EqualityText s c
        ["inline " ++ result ++ " operator==(const " ++ s.className c ++ "& C1, const " ++
            s.className c ++ r"& C2) {",
          "  return C1." ++ equalityMethod s c hook ++ "(C2);",
          r"}"]

theorem equalityOperator_eq_ok_iff {code : Code} :
    equalityOperator s c = .ok code ↔ EqualityText s c code := by
  unfold equalityOperator
  constructor
  · intro h
    split at h
    · next hhook =>
        obtain rfl := Except.ok.inj h
        exact .unhooked hhook
    · next hook hhook =>
        obtain ⟨result, hresult, rfl⟩ := bind_pure_eq_ok_iff.1 (attributed_eq_ok_iff.1 h)
        exact .hooked hhook hresult
  · rintro (hhook | ⟨hhook, hresult⟩)
    · rw [hhook]
    · rw [hhook]
      exact attributed_eq_ok_iff.2 (bind_pure_eq_ok_iff.2 ⟨_, hresult, rfl⟩)

/-- `OperatorsText s c code`: the operators of a class are `code`. -/
inductive OperatorsText (s : Settings) (c : ObjectClass) : Code → Prop where
  | off (hs : s.extensions = false) : OperatorsText s c []
  | on {equality : Code} (hs : s.extensions = true) (hequality : EqualityText s c equality) :
      OperatorsText s c (Code.sections [streamOperator s c, equality])

theorem operators_eq_ok_iff {code : Code} : operators s c = .ok code ↔ OperatorsText s c code := by
  unfold operators
  constructor
  · intro h
    split at h
    · next hs =>
        obtain ⟨equality, hequality, rfl⟩ := bind_pure_eq_ok_iff.1 h
        exact .on hs (equalityOperator_eq_ok_iff.1 hequality)
    · next hs =>
        obtain rfl := Except.ok.inj h
        exact .off (Bool.eq_false_iff.2 hs)
  · rintro (hs | ⟨hs, hequality⟩)
    · rw [hs]
      rfl
    · rw [if_pos hs]
      exact bind_pure_eq_ok_iff.2 ⟨_, equalityOperator_eq_ok_iff.2 hequality, rfl⟩

/-- How the implementation of a class is made. -/
structure ImplementationOf (s : Settings) (c : ObjectClass) (constructors : List Code)
    (operators : Code) (methods : List Code) : Prop where
  constructors : List.Forall₂ (fun m piece => memberDefinition s c m = .ok piece)
    c.constructorMembers constructors
  operators : HandleWrap.operators s c = .ok operators
  methods : List.Forall₂ (fun m piece => memberDefinition s c m = .ok piece)
    c.methodMembers methods

/-- The implementation of a class around the definitions of its members. -/
theorem classImplementation_eq_ok_iff {code : Code} :
    classImplementation s c = .ok code ↔ ∃ constructors operators methods,
      ImplementationOf s c constructors operators methods ∧
      code = ("// implementations for " ++ s.qualified (s.className c)) ::
        Code.sections (implementationParts s c constructors operators methods) := by
  rw [classImplementation, bind_eq_ok_iff]
  constructor
  · rintro ⟨constructors, hconstructors, h⟩
    obtain ⟨operators, hoperators, h⟩ := bind_eq_ok_iff.1 h
    obtain ⟨methods, hmethods, h⟩ := bind_eq_ok_iff.1 h
    exact ⟨constructors, operators, methods,
      ⟨mapM_eq_ok_iff.1 hconstructors, hoperators, mapM_eq_ok_iff.1 hmethods⟩,
      (pure_eq_ok_iff.1 h).symm⟩
  · rintro ⟨constructors, operators, methods, ⟨hconstructors, hoperators, hmethods⟩, rfl⟩
    refine ⟨constructors, mapM_eq_ok_iff.2 hconstructors, bind_eq_ok_iff.2 ⟨operators, hoperators,
      bind_eq_ok_iff.2 ⟨methods, mapM_eq_ok_iff.2 hmethods, rfl⟩⟩⟩

/-- How the output is made: a declaration and an implementation for each class, in order. -/
structure OutputOf (s : Settings) (t : ClassTable) (declarations implementations : List Code) :
    Prop where
  declarations : List.Forall₂ (fun c piece => classDeclaration s t c = .ok piece)
    t.toList declarations
  implementations : List.Forall₂ (fun c piece => classImplementation s c = .ok piece)
    t.toList implementations

/-- **What the output is:** the texts of all classes in the frame. -/
theorem header_eq_ok_iff {lines : Code} :
    header s t = .ok lines ↔ ∃ declarations implementations,
      OutputOf s t declarations implementations ∧
      lines = opening s ++ forwardDeclarations s t ++ [""] ++ Code.spaced declarations ++ [""] ++
        Code.spaced implementations ++ closing s := by
  rw [header, bind_eq_ok_iff]
  constructor
  · rintro ⟨_, hfirst, h⟩
    obtain ⟨declarations, hdeclarations, hspaced⟩ := bind_eq_ok_iff.1 hfirst
    obtain rfl := pure_eq_ok_iff.1 hspaced
    obtain ⟨_, hsecond, h⟩ := bind_eq_ok_iff.1 h
    obtain ⟨implementations, himplementations, hspaced⟩ := bind_eq_ok_iff.1 hsecond
    obtain rfl := pure_eq_ok_iff.1 hspaced
    exact ⟨declarations, implementations,
      ⟨mapM_eq_ok_iff.1 hdeclarations, mapM_eq_ok_iff.1 himplementations⟩,
      (pure_eq_ok_iff.1 h).symm⟩
  · rintro ⟨declarations, implementations, ⟨hdeclarations, himplementations⟩, rfl⟩
    exact ⟨_, bind_eq_ok_iff.2 ⟨declarations, mapM_eq_ok_iff.2 hdeclarations, rfl⟩,
      bind_eq_ok_iff.2 ⟨_, bind_eq_ok_iff.2 ⟨implementations,
        mapM_eq_ok_iff.2 himplementations, rfl⟩, rfl⟩⟩

theorem generate_eq_ok_iff {text : String} :
    generate s t = .ok text ↔ ∃ lines, header s t = .ok lines ∧ lines.render = text := by
  rw [generate, bind_eq_ok_iff]
  simp only [pure_eq_ok_iff]

/-! ## Definitions -/

/-- The definition of every member stands in the implementation of its class. -/
theorem definition_infix_implementation {implementation : Code}
    (h : classImplementation s c = .ok implementation) {m : Member}
    (hm : m ∈ c.constructorMembers ++ c.methodMembers) :
    ∃ code, memberDefinition s c m = .ok code ∧ code <:+: implementation := by
  obtain ⟨constructors, operators, methods, hparts, rfl⟩ := classImplementation_eq_ok_iff.1 h
  have hdefinition : ∃ code ∈ constructors ++ methods, memberDefinition s c m = .ok code :=
    exists_mem_of_forall₂ (List.rel_append hparts.constructors hparts.methods) hm
  obtain ⟨code, hcode, hdefinition⟩ := hdefinition
  have hpiece : code ∈ implementationParts s c constructors operators methods := by
    rcases List.mem_append.1 hcode with hcode | hcode
    · simp [implementationParts, hcode]
    · simp [implementationParts, hcode]
  exact ⟨code, hdefinition, List.infix_cons (Code.infix_sections hpiece)⟩

/-- The definition of every member stands in the output. -/
theorem definition_infix_header {lines : Code} (h : header s t = .ok lines) (hc : c ∈ t.toList)
    {m : Member} (hm : m ∈ c.constructorMembers ++ c.methodMembers) :
    ∃ code, memberDefinition s c m = .ok code ∧ code <:+: lines := by
  obtain ⟨declarations, implementations, ⟨_, himplementations⟩, rfl⟩ := header_eq_ok_iff.1 h
  obtain ⟨implementation, hmem, himplementation⟩ := exists_mem_of_forall₂ himplementations hc
  obtain ⟨code, hdefinition, hinfix⟩ := definition_infix_implementation himplementation hm
  refine ⟨code, hdefinition, hinfix.trans ((Code.infix_spaced hmem).trans ?_)⟩
  exact List.infix_append _ _ _

/-- The declaration and the implementation of every class stand in the output. -/
theorem classTexts_infix_header {lines : Code} (h : header s t = .ok lines) (hc : c ∈ t.toList) :
    ∃ declaration implementation, classDeclaration s t c = .ok declaration ∧
      declaration <:+: lines ∧ classImplementation s c = .ok implementation ∧
      implementation <:+: lines := by
  obtain ⟨declarations, implementations, ⟨hdeclarations, himplementations⟩, rfl⟩ :=
    header_eq_ok_iff.1 h
  obtain ⟨declaration, hmem, hdeclaration⟩ := exists_mem_of_forall₂ hdeclarations hc
  obtain ⟨implementation, hmem', himplementation⟩ := exists_mem_of_forall₂ himplementations hc
  refine ⟨declaration, implementation, hdeclaration, ?_, himplementation, ?_⟩
  · have hspaced := (Code.infix_spaced hmem).trans
      (List.infix_append (opening s ++ forwardDeclarations s t ++ [""]) _
        ([""] ++ Code.spaced implementations ++ closing s))
    simpa only [List.append_assoc] using hspaced
  · exact (Code.infix_spaced hmem').trans (List.infix_append _ _ _)

/-- What stands in the lines stands in the text. -/
theorem Code.exists_render_of_infix {part whole : Code} (h : part <:+: whole) :
    ∃ before after, whole.render = before ++ part.render ++ after := by
  obtain ⟨before, after, rfl⟩ := h
  exact ⟨render before, render after, by rw [render_append, render_append]⟩

/-! ## Order -/

namespace Code

/-- `first` stands in the text, and `second` somewhere behind it. -/
def InOrder (first second whole : Code) : Prop :=
  ∃ before between after, whole = before ++ first ++ between ++ second ++ after

variable {first second whole : Code}

/-- More text around changes no order. -/
theorem InOrder.surround (h : InOrder first second whole) (before after : Code) :
    InOrder first second (before ++ whole ++ after) := by
  obtain ⟨lead, between, tail, rfl⟩ := h
  exact ⟨before ++ lead, between, tail ++ after, by simp only [List.append_assoc]⟩

/-- Every line of the first text stands before every line of the second. -/
theorem InOrder.sublist (h : InOrder first second whole) {x y : String} (hx : x ∈ first)
    (hy : y ∈ second) : [x, y].Sublist whole := by
  obtain ⟨before, between, after, rfl⟩ := h
  have hxs : [x].Sublist (before ++ first ++ between) :=
    List.singleton_sublist.2 (by simp [hx])
  have hys : [y].Sublist (second ++ after) := List.singleton_sublist.2 (by simp [hy])
  have hboth := hxs.append hys
  simpa only [List.append_assoc, List.singleton_append] using hboth

/-- Pieces that follow each other in a list do so in the text. -/
theorem inOrder_spaced {pieces : List Code} (h : [first, second].Sublist pieces) :
    InOrder first second (spaced pieces) := by
  induction pieces with
  | nil => cases h
  | cons piece rest ih =>
      have hcons : rest ≠ [] → spaced (piece :: rest) = piece ++ "" :: spaced rest := by
        cases rest with
        | nil => exact fun h => absurd rfl h
        | cons next rest => exact fun _ => rfl
      cases h with
      | cons _ h =>
          have hne : rest ≠ [] := fun hnil => by rw [hnil] at h; cases h
          rw [hcons hne]
          have hafter := (ih h).surround (piece ++ [""]) []
          simpa only [List.append_assoc, List.append_nil, List.singleton_append] using hafter
      | cons_cons _ h =>
          have hmem : second ∈ rest := List.singleton_sublist.1 h
          have hne : rest ≠ [] := List.ne_nil_of_mem hmem
          obtain ⟨between, after, hspaced⟩ := infix_spaced hmem
          refine ⟨[], "" :: between, after, ?_⟩
          rw [hcons hne, ← hspaced]
          simp only [List.nil_append, List.append_assoc, List.cons_append]

end Code

end HandleWrap
