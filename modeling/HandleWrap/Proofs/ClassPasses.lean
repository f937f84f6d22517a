import HandleWrap.Proofs.BuiltIns
import HandleWrap.Proofs.Member

set_option autoImplicit false

/-! # The declaration and the implementation of a class

A class is walked through twice, once for its declaration and once for its implementation, and the
two walks never look at each other. What keeps them in step is that both walk through the same
members in the same order, that both make the signature of a member in the same way, and that every
built-in function of the class is in both texts or in neither. `passes_agree` says so. -/

namespace HandleWrap

variable {s : Settings} {t : ClassTable} {c : ObjectClass} {m : Member}

/-! ## One signature -/

namespace Signature

/-- What stands in front of the name: the result type, if there is one. -/
def lead (signature : Signature) : String :=
  match signature.result with
  | some type => type ++ " "
  | none => ""

/-- The name and everything behind it. -/
def tail (signature : Signature) : String :=
  signature.name ++ "(" ++ ", ".intercalate signature.params ++ ")" ++
    if signature.isConst then " const" else ""

/-- The scope goes between the two. -/
theorem text_eq (signature : Signature) (scope : String) :
    signature.text scope = signature.lead ++ scope ++ signature.tail := by
  unfold text lead tail
  cases signature.result with
  | none => simp only [String.append_assoc]
  | some type => simp only [String.append_assoc]

end Signature

/-- A constructor has nothing in front of its name, and all else has its result type. -/
theorem SignatureOf.lead_eq {signature : Signature} (h : SignatureOf s c m signature) :
    m.kind = .constructor ∧ signature.lead = "" ∨
      m.kind ≠ .constructor ∧ ∃ type narrowed,
        s.returnType c m.function = .ok (type, narrowed) ∧ signature.lead = type ++ " " := by
  unfold Signature.lead
  obtain ⟨hkind, hresult⟩ | ⟨hkind, type, narrowed, htype, hresult⟩ :=
    resultType_eq_ok_iff.1 h.result
  · exact .inl ⟨hkind, by rw [hresult]⟩
  · exact .inr ⟨hkind, type, narrowed, htype, by rw [hresult]⟩

/-- A member that is defined is declared. -/
theorem succeeds_memberDeclaration {definition : Code}
    (h : memberDefinition s c m = .ok definition) : Succeeds (memberDeclaration s t c m) := by
  rw [succeeds_memberDeclaration_iff]
  exact (succeeds_memberDefinition_iff.1 ⟨definition, h⟩).1

theorem memberDefinition_ne_nil {definition : Code}
    (h : memberDefinition s c m = .ok definition) : definition ≠ [] := by
  obtain ⟨signature, body, _, _, rfl⟩ := memberDefinition_eq_ok_iff.1 h
  exact List.cons_ne_nil _ _

/-! ## The members of both texts -/

/-- A member with the two texts that are made for it. -/
structure MemberText where
  member : Member
  declaration : Code
  definition : Code

/-- The class without its members. -/
def ObjectClass.withoutMembers (c : ObjectClass) : ObjectClass :=
  { c with constructors := [], methods := .empty }

/-- `SameMembers s t c constructors methods declaration implementation`: both texts hold the
    constructors and methods of the class once and in order, and all else in them is there without
    members too. -/
structure SameMembers (s : Settings) (t : ClassTable) (c : ObjectClass)
    (constructors methods : List MemberText) (declaration implementation : Code) : Prop where
  constructors_eq : constructors.map (·.member) =
    c.constructors.map fun f => ⟨f.name, f, .constructor⟩
  /-- Methods come in groups in order of their names. -/
  methods_eq : methods.map (·.member) =
    c.methods.entries.flatMap fun group => group.2.map fun f => ⟨group.1, f, c.methodKind f⟩
  sorted : c.methods.entries.Pairwise fun a b => a.1 < b.1
  texts : ∀ x ∈ constructors ++ methods, memberDeclaration s t c x.member = .ok x.declaration ∧
    memberDefinition s c x.member = .ok x.definition ∧ x.definition ≠ []
  declaration_eq : declaration = (declarationParts s c.withoutMembers
    (constructors.flatMap (·.declaration)) (methods.flatMap (·.declaration))).flatten
  implementation_eq : ∃ operators, HandleWrap.operators s c.withoutMembers = .ok operators ∧
    implementation = ("// implementations for " ++ s.qualified (s.className c)) ::
      Code.sections (implementationParts s c.withoutMembers (constructors.map (·.definition))
        operators (methods.map (·.definition)))

/-- Members that are all defined are all declared, one by one. -/
theorem exists_memberTexts {members : List Member} {definitions : List Code}
    (h : members.mapM (memberDefinition s c) = .ok definitions) :
    ∃ texts : List MemberText, texts.map (·.member) = members ∧
      texts.map (·.definition) = definitions ∧
      memberDeclarations s t c members = .ok (texts.flatMap (·.declaration)) ∧
      ∀ x ∈ texts, memberDeclaration s t c x.member = .ok x.declaration ∧
        memberDefinition s c x.member = .ok x.definition ∧ x.definition ≠ [] := by
  rw [mapM_eq_ok_iff] at h
  induction h with
  | nil => exact ⟨[], rfl, rfl, rfl, by simp⟩
  | @cons m definition members definitions hdefinition _ ih =>
      obtain ⟨texts, hmembers, hdefinitions, hdeclarations, htexts⟩ := ih
      obtain ⟨declaration, hdeclaration⟩ := succeeds_memberDeclaration (t := t) hdefinition
      obtain ⟨rest, hrest, hflatten⟩ := bind_eq_ok_iff.1 hdeclarations
      refine ⟨⟨m, declaration, definition⟩ :: texts, ?_, ?_, ?_, ?_⟩
      · rw [List.map_cons, hmembers]
      · rw [List.map_cons, hdefinitions]
      · refine bind_eq_ok_iff.2 ⟨declaration :: rest, ?_, ?_⟩
        · exact mapM_eq_ok_iff.2 (.cons hdeclaration (mapM_eq_ok_iff.1 hrest))
        · rw [List.flatten_cons, List.flatMap_cons, pure_eq_ok_iff, pure_eq_ok_iff.1 hflatten]
      · rw [List.forall_mem_cons]
        exact ⟨⟨hdeclaration, hdefinition, memberDefinition_ne_nil hdefinition⟩, htexts⟩

/-- **A class that is implemented is declared,** with the same members in the same order. -/
theorem sameMembers_of_classImplementation {implementation : Code}
    (h : classImplementation s c = .ok implementation) :
    ∃ constructors methods declaration, classDeclaration s t c = .ok declaration ∧
      SameMembers s t c constructors methods declaration implementation := by
  obtain ⟨constructorCodes, hconstructors, h⟩ := bind_eq_ok_iff.1 h
  obtain ⟨operators, hoperators, h⟩ := bind_eq_ok_iff.1 h
  obtain ⟨methodCodes, hmethods, h⟩ := bind_eq_ok_iff.1 h
  obtain ⟨constructors, hconstructor, rfl, hconstructorDeclarations, hconstructorTexts⟩ :=
    exists_memberTexts (t := t) hconstructors
  obtain ⟨methods, hmethod, rfl, hmethodDeclarations, hmethodTexts⟩ :=
    exists_memberTexts (t := t) hmethods
  refine ⟨constructors, methods, _, bind_eq_ok_iff.2 ⟨_, hconstructorDeclarations,
    bind_eq_ok_iff.2 ⟨_, hmethodDeclarations, rfl⟩⟩, hconstructor, hmethod, c.methods.sorted, ?_,
    rfl, operators, hoperators, ?_⟩
  · intro x hx
    rcases List.mem_append.1 hx with hx | hx
    · exact hconstructorTexts x hx
    · exact hmethodTexts x hx
  · exact (pure_eq_ok_iff.1 h).symm

/-! ## Both passes -/

/-- Built-in functions are in both texts or in neither. -/
theorem SameMembers.inBoth {constructors methods : List MemberText}
    {declaration implementation : Code}
    (h : SameMembers s t c constructors methods declaration implementation) {b : BuiltIn}
    (hmem : b ∈ builtIns s c) : b.InBoth declaration implementation := by
  obtain ⟨operators, _, himplementation⟩ := h.implementation_eq
  refine ⟨inStep_of_mem_builtIns hmem, ?_, ?_⟩
  · rw [h.declaration_eq]
    exact List.infix_of_mem_flatten (declared_mem_declarationParts hmem _ _)
  · rw [himplementation]
    exact List.infix_cons (Code.infix_sections (defined_mem_implementationParts hmem _ _ _))

end HandleWrap
