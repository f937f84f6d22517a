import HandleWrap.Proofs.Output
import HandleWrap.Proofs.TableAcceptance

set_option autoImplicit false

/-! # What the equality operator calls

An equality hook becomes an `operator==` that calls a method of the class: the one whose public name
the hook stands for. The check of a table asks for a method group of that name, and every overload
of the group is declared under the name that the operator uses. The check does not ask for an
overload. So the call has something to go to exactly if a group with at least one overload has that
public name (`equalityCall_declared_iff`); where the group of the hook is empty and no other group
is renamed to it, the operator calls what nobody declares
(`equalityCall_not_declared_uncomparedSet`).
-/

namespace HandleWrap

variable {s : Settings} {t : ClassTable} {c : ObjectClass} {m : Member} {hook : CFunction}

/-- The declaration of the class declares the member as a function of that name. -/
def DeclaredAs (s : Settings) (t : ClassTable) (c : ObjectClass) (declaration : Code) (m : Member)
    (name : String) : Prop :=
  ∃ signature, s.signature c m = .ok signature ∧ signature.name = name ∧
    "  " ++ t.qualifiers c m ++ signature.text "" ++ ";" ∈ declaration

/-- The name stands before an opening parenthesis somewhere in the code. -/
def Code.NamesFunction (code : Code) (name : String) : Prop :=
  ∃ line ∈ code, (name ++ "(").toList <:+: line.toList

/-- The statement by which the equality operator calls a method. -/
def equalityCall (name : String) : String :=
  "  return C1." ++ name ++ "(C2);"

/-! ## Methods -/

theorem mem_methodMembers_iff :
    m ∈ c.methodMembers ↔ ∃ group ∈ c.methods.entries, ∃ f ∈ group.2,
      m = ⟨group.1, f, c.methodKind f⟩ := by
  simp only [ObjectClass.methodMembers, List.mem_flatMap, List.mem_map, eq_comm]

/-- A method has the public name of its group. -/
theorem publicName_of_mem_methodMembers (hm : m ∈ c.methodMembers) :
    s.publicName c m = s.renamed m.name := by
  obtain ⟨group, _, f, _, rfl⟩ := mem_methodMembers_iff.1 hm
  have hkind : c.methodKind f = .instanceMethod ∨ c.methodKind f = .staticMethod := by
    unfold ObjectClass.methodKind
    split
    · exact Or.inl rfl
    · exact Or.inr rfl
  unfold Settings.publicName
  rcases hkind with hkind | hkind
  · rw [hkind]
  · rw [hkind]

/-- Every method is declared under its public name. -/
theorem declaredAs_of_mem_methodMembers {declaration : Code}
    (h : classDeclaration s t c = .ok declaration) (hm : m ∈ c.methodMembers) :
    DeclaredAs s t c declaration m (s.renamed m.name) := by
  obtain ⟨constructors, methods, _, hmethods, rfl⟩ := classDeclaration_eq_ok_iff.1 h
  obtain ⟨pieces, hpieces, rfl⟩ := memberDeclarations_eq_ok_iff.1 hmethods
  obtain ⟨piece, hpiece, hdeclared⟩ := exists_mem_of_forall₂ hpieces hm
  obtain ⟨signature, hsignature, rfl⟩ := memberDeclaration_eq_ok_iff.1 hdeclared
  refine ⟨signature, signature_eq_ok_iff.2 hsignature, ?_, ?_⟩
  · rw [hsignature.name, publicName_of_mem_methodMembers hm]
  · have hline := List.mem_flatten.2 ⟨_, hpiece, List.mem_singleton_self _⟩
    exact List.mem_flatten.2 ⟨pieces.flatten, by simp [declarationParts], hline⟩

/-- What is declared under a name has that name in its text. -/
theorem DeclaredAs.namesFunction {declaration : Code} {name : String}
    (h : DeclaredAs s t c declaration m name) : declaration.NamesFunction name := by
  obtain ⟨signature, _, rfl, hline⟩ := h
  refine ⟨_, hline, ?_⟩
  have htext : (signature.name ++ "(").toList <:+: (signature.text "").toList := by
    unfold Signature.text
    simp only [String.append_empty, String.toList_append, List.append_assoc]
    exact (List.prefix_append_right_inj _).2 (List.prefix_append _ _) |>.isInfix.trans
      (List.suffix_append _ _).isInfix
  refine htext.trans ?_
  simp only [String.toList_append]
  exact List.infix_append _ _ _

/-! ## The group of the hook -/

/-- In a table the hook of a class stands for one of its groups. -/
theorem exists_equalityGroup (hc : c ∈ t.toList) (hhook : c.equality = some hook) :
    ∃ overloads, (c.methodName hook, overloads) ∈ c.methods.entries := by
  have hfits := (ObjectClass.problem?_eq_none_iff t.keyed).1 (t.problem?_of_mem hc)
  obtain ⟨⟨_, overloads⟩, hgroup, rfl⟩ := List.mem_map.1 (hfits.equality hook hhook)
  exact ⟨overloads, hgroup⟩

/-- With extensions on the call stands in the implementation of the class. -/
theorem equalityCall_mem_implementation {implementation : Code}
    (h : classImplementation s c = .ok implementation) (hextensions : s.extensions = true)
    (hhook : c.equality = some hook) :
    equalityCall (equalityMethod s c hook) ∈ implementation := by
  obtain ⟨constructors, operators, methods, hparts, rfl⟩ := classImplementation_eq_ok_iff.1 h
  obtain ⟨equality, hequality, rfl⟩ : ∃ equality, EqualityText s c equality ∧
      operators = Code.sections [streamOperator s c, equality] := by
    cases operators_eq_ok_iff.1 hparts.operators with
    | off hs => rw [hextensions] at hs; cases hs
    | on _ hequality => exact ⟨_, hequality, rfl⟩
  have hcall : equalityCall (equalityMethod s c hook) ∈ equality := by
    cases hequality with
    | unhooked hnone => rw [hhook] at hnone; cases hnone
    | hooked hsome _ =>
        obtain rfl := Option.some.inj (hhook.symm.trans hsome)
        simp [equalityCall]
  have hsection : equality <:+: Code.sections [streamOperator s c, equality] :=
    Code.infix_sections (by simp)
  have hpart : Code.sections [streamOperator s c, equality] ∈ implementationParts s c constructors
      (Code.sections [streamOperator s c, equality]) methods := by
    simp [implementationParts]
  exact List.mem_cons_of_mem _ ((Code.infix_sections hpart).subset (hsection.subset hcall))

/-! ## The call and what it goes to -/

/-- Some method is declared under a name exactly if a group with an overload has that public
    name. -/
theorem exists_declaredAs_iff {declaration : Code} (h : classDeclaration s t c = .ok declaration)
    (name : String) :
    (∃ m ∈ c.methodMembers, DeclaredAs s t c declaration m name) ↔
      ∃ group ∈ c.methods.entries, s.renamed group.1 = name ∧ group.2 ≠ [] := by
  constructor
  · rintro ⟨m, hm, signature, hsignature, hname, _⟩
    have hpublic : s.renamed m.name = name := by
      rw [← hname, (signature_eq_ok_iff.1 hsignature).name, publicName_of_mem_methodMembers hm]
    obtain ⟨group, hgroup, f, hf, rfl⟩ := mem_methodMembers_iff.1 hm
    exact ⟨group, hgroup, hpublic, List.ne_nil_of_mem hf⟩
  · rintro ⟨group, hgroup, rfl, hne⟩
    obtain ⟨f, hf⟩ := List.exists_mem_of_ne_nil _ hne
    have hm : ⟨group.1, f, c.methodKind f⟩ ∈ c.methodMembers :=
      mem_methodMembers_iff.2 ⟨group, hgroup, f, hf, rfl⟩
    exact ⟨_, hm, declaredAs_of_mem_methodMembers h hm⟩

/-- **The equality operator calls a method that is declared exactly if a group with an overload has
    the public name that it uses.** The group that the hook stands for has that name, and all of its
    overloads are declared under it. -/
theorem equalityCall_declared_iff {text : String} (h : generate s t = .ok text)
    (hextensions : s.extensions = true) (hc : c ∈ t.toList) (hhook : c.equality = some hook) :
    ∃ lines declaration implementation, header s t = .ok lines ∧ lines.render = text ∧
      classDeclaration s t c = .ok declaration ∧ declaration <:+: lines ∧
      classImplementation s c = .ok implementation ∧ implementation <:+: lines ∧
      equalityCall (equalityMethod s c hook) ∈ implementation ∧
      (∃ overloads, c.methods.get? (c.methodName hook) = some overloads ∧
        ∀ f ∈ overloads, DeclaredAs s t c declaration ⟨c.methodName hook, f, c.methodKind f⟩
          (equalityMethod s c hook)) ∧
      ((∃ m ∈ c.methodMembers, DeclaredAs s t c declaration m (equalityMethod s c hook)) ↔
        ∃ group ∈ c.methods.entries, s.renamed group.1 = equalityMethod s c hook ∧
          group.2 ≠ []) := by
  obtain ⟨lines, hlines, hrender⟩ := generate_eq_ok_iff.1 h
  obtain ⟨declaration, implementation, hdeclaration, hdeclared, himplementation, himplemented⟩ :=
    classTexts_infix_header hlines hc
  obtain ⟨overloads, hgroup⟩ := exists_equalityGroup hc hhook
  have hoverloads : ∀ f ∈ overloads, DeclaredAs s t c declaration
      ⟨c.methodName hook, f, c.methodKind f⟩ (equalityMethod s c hook) := fun f hf =>
    declaredAs_of_mem_methodMembers hdeclaration
      (mem_methodMembers_iff.2 ⟨_, hgroup, f, hf, rfl⟩)
  exact ⟨lines, declaration, implementation, hlines, hrender, hdeclaration, hdeclared,
    himplementation, himplemented,
    equalityCall_mem_implementation himplementation hextensions hhook,
    ⟨overloads, c.methods.get?_eq_some_iff.2 hgroup, hoverloads⟩,
    exists_declaredAs_iff hdeclaration _⟩

/-- The function that compares two sets. -/
def setEquality : CFunction where
  name := "isl_set_is_equal"
  returnType := .bool
  params := [⟨"set1", .handle "isl_set", .keep⟩, ⟨"set2", .handle "isl_set", .keep⟩]

/-- Sets that are compared by one of their methods. -/
def comparedSet : ObjectClass :=
  { (ObjectClass.named "isl_set").withMethod "is_equal" setEquality with
    equality := some setEquality }

theorem equalityCall_declared_iff_comparedSet :
    ∃ t text, ClassTable.ofClasses [comparedSet] = .ok t ∧
      generate (Settings.standard.withRename "is_equal" "equals") t = .ok text ∧
      comparedSet ∈ t.toList ∧ comparedSet.equality = some setEquality ∧
      ∃ lines declaration implementation : Code, lines.render = text ∧ declaration <:+: lines ∧
        implementation <:+: lines ∧ equalityCall "equals" ∈ implementation ∧
        ∃ m ∈ comparedSet.methodMembers, DeclaredAs
          (Settings.standard.withRename "is_equal" "equals") t comparedSet declaration m
          "equals" := by
  obtain ⟨t, text, ht, htext⟩ : ∃ t text, ClassTable.ofClasses [comparedSet] = .ok t ∧
      generate (Settings.standard.withRename "is_equal" "equals") t = .ok text :=
    ⟨_, _, rfl, rfl⟩
  have hmem : comparedSet ∈ t.toList :=
    (holds_of_ofClasses ht).perm.mem_iff.2 (List.mem_singleton_self _)
  have hname : equalityMethod (Settings.standard.withRename "is_equal" "equals") comparedSet
      setEquality = "equals" := rfl
  obtain ⟨lines, declaration, implementation, _, hrender, _, hdeclared, _, himplemented, hcall, _,
    hiff⟩ := equalityCall_declared_iff htext rfl hmem rfl
  rw [hname] at hcall hiff
  exact ⟨t, text, ht, htext, hmem, rfl, lines, declaration, implementation, hrender, hdeclared,
    himplemented, hcall, hiff.2 ⟨("is_equal", [setEquality]), List.mem_singleton_self _, rfl,
      List.cons_ne_nil _ _⟩⟩

/-- Sets with an equality hook whose group has no overload. -/
def uncomparedSet : ObjectClass where
  name := "isl_set"
  equality := some setEquality
  methods := .ofList [("is_equal", [])]

/-- The group of the hook may be empty, and then the operator calls what nobody declares. -/
theorem equalityCall_not_declared_uncomparedSet :
    ∃ t text declaration implementation, ClassTable.ofClasses [uncomparedSet] = .ok t ∧
      generate .standard t = .ok text ∧ uncomparedSet ∈ t.toList ∧
      uncomparedSet.equality = some setEquality ∧
      classDeclaration .standard t uncomparedSet = .ok declaration ∧
      classImplementation .standard uncomparedSet = .ok implementation ∧
      equalityMethod .standard uncomparedSet setEquality = "is_equal" ∧
      equalityCall "is_equal" ∈ implementation ∧ ¬ declaration.NamesFunction "is_equal" ∧
      ∀ m, ¬ DeclaredAs .standard t uncomparedSet declaration m "is_equal" := by
  obtain ⟨t, text, declaration, implementation, ht, htext, hdeclaration, himplementation, hnone⟩ :
      ∃ t text declaration implementation, ClassTable.ofClasses [uncomparedSet] = .ok t ∧
        generate .standard t = .ok text ∧
        classDeclaration .standard t uncomparedSet = .ok declaration ∧
        classImplementation .standard uncomparedSet = .ok implementation ∧
        ∀ line ∈ declaration, ¬ ("is_equal" ++ "(").toList <:+: line.toList :=
    ⟨_, _, _, _, rfl, rfl, rfl, rfl, by decide +kernel⟩
  have hmem : uncomparedSet ∈ t.toList :=
    (holds_of_ofClasses ht).perm.mem_iff.2 (List.mem_singleton_self _)
  have hunnamed : ¬ declaration.NamesFunction "is_equal" := by
    rintro ⟨line, hline, hinfix⟩
    exact hnone line hline hinfix
  have hname : equalityMethod .standard uncomparedSet setEquality = "is_equal" := rfl
  have hcall := equalityCall_mem_implementation himplementation rfl rfl
  rw [hname] at hcall
  exact ⟨t, text, declaration, implementation, ht, htext, hmem, rfl, hdeclaration, himplementation,
    hname, hcall, hunnamed, fun m hdeclared => hunnamed hdeclared.namesFunction⟩

end HandleWrap
