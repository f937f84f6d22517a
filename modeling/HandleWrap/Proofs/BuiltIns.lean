import HandleWrap.ClassText

set_option autoImplicit false

/-! # Built-in functions of a class

Besides its members a class has functions that are the same for every class: factories, destructor,
access to the raw pointer, conversions, constructors of its own, assignment and the context. They
are declared in one text and defined in another one. `builtIns` lists them with both, and
`BuiltIn.InStep` says that what is declared is what is defined, and when. -/

namespace HandleWrap

variable {s : Settings} {c : ObjectClass}

namespace ObjectClass

/-- Whether the class can tell its views apart. -/
def isTaggedRoot (c : ObjectClass) : Bool :=
  match c.role with
  | .taggedRoot _ => true
  | _ => false

end ObjectClass

/-- Built-in functions that a class has together or not at all. -/
structure BuiltIn where
  /-- Whether the class has them. -/
  present : Bool
  declared : Code
  defined : Code
  /-- For each of them, the line that declares it and the line that its definition has its name
      on. -/
  functions : List (String × String)

/-- The functions are declared and defined if the class has them, and neither if it has them not. -/
structure BuiltIn.InStep (h : BuiltIn) : Prop where
  declared_iff : h.declared ≠ [] ↔ h.present = true
  defined_iff : h.defined ≠ [] ↔ h.present = true
  functions : h.present = true → ∀ x ∈ h.functions, x.1 ∈ h.declared ∧ x.2 ∈ h.defined

/-- The functions are declared in the first text and defined in the second, or in neither. -/
structure BuiltIn.InBoth (h : BuiltIn) (declaration implementation : Code) : Prop extends
    h.InStep where
  declared_infix : h.declared <:+: declaration
  defined_infix : h.defined <:+: implementation

/-! ## Functions that some classes have -/

/-- The two factories. -/
def factoryBuiltIn (s : Settings) (c : ObjectClass) : BuiltIn where
  present := c.ownsHandle
  declared := factoryDeclarations s c ""
  defined := factories s c
  functions :=
    let wrapper := s.qualified (s.className c)
    [("inline " ++ wrapper ++ " manage(" ++ rawPointer s c "take" ++ ");",
        wrapper ++ " manage(" ++ rawPointer s c "take" ++ r") {"),
      ("inline " ++ wrapper ++ " manage_copy(" ++ rawPointer s c "keep" ++ ");",
        wrapper ++ " manage_copy(" ++ rawPointer s c "keep" ++ r") {")]

theorem factoryBuiltIn_inStep (s : Settings) (c : ObjectClass) : (factoryBuiltIn s c).InStep := by
  refine ⟨by simp [factoryBuiltIn, factoryDeclarations],
    by simp [factoryBuiltIn, factories, adoptingFactory], ?_⟩
  intro (hc : c.ownsHandle = true)
  -- the declarations put their names together from pieces
  have hmanage : ∀ text, " " ++ ("manage" ++ ("(" ++ text)) = " manage(" ++ text := fun text => by
    rw [← String.append_assoc, ← String.append_assoc]
    rfl
  have hcopy : ∀ text, " " ++ ("manage_copy" ++ ("(" ++ text)) = " manage_copy(" ++ text :=
    fun text => by
      rw [← String.append_assoc, ← String.append_assoc]
      rfl
  simp [factoryBuiltIn, factoryDeclarations, factories, adoptingFactory, copyingFactory, hc,
    String.append_assoc, hmanage, hcopy]

def destructorBuiltIn (s : Settings) (c : ObjectClass) : BuiltIn where
  present := c.ownsHandle
  declared := destructorDeclaration s c
  defined := destructor s c
  functions := [("  inline ~" ++ s.className c ++ "();",
    s.className c ++ "::~" ++ s.className c ++ r"() {")]

theorem destructorBuiltIn_inStep (s : Settings) (c : ObjectClass) :
    (destructorBuiltIn s c).InStep := by
  refine ⟨by simp [destructorBuiltIn, destructorDeclaration],
    by simp [destructorBuiltIn, destructor], ?_⟩
  intro (hc : c.ownsHandle = true)
  simp [destructorBuiltIn, destructorDeclaration, destructor, hc]

/-- Access to the raw pointer. -/
def pointerBuiltIn (s : Settings) (c : ObjectClass) : BuiltIn where
  present := c.ownsHandle
  declared := pointerDeclarations s c
  defined := pointerAccess s c
  functions :=
    let cpp := s.className c
    let give := s.ownershipMark "give" ++ " " ++ c.name
    let keep := s.ownershipMark "keep" ++ " " ++ c.name
    [("  inline " ++ give ++ " *copy() const &;", give ++ " *" ++ cpp ++ r"::copy() const & {"),
      ("  inline " ++ keep ++ " *get() const;", keep ++ " *" ++ cpp ++ r"::get() const {"),
      ("  inline " ++ give ++ " *release();", give ++ " *" ++ cpp ++ r"::release() {"),
      ("  inline bool is_null() const;", "bool " ++ cpp ++ r"::is_null() const {"),
      ("  inline explicit operator bool() const;", cpp ++ "::operator bool() const")]

theorem pointerBuiltIn_inStep (s : Settings) (c : ObjectClass) : (pointerBuiltIn s c).InStep := by
  refine ⟨by simp [pointerBuiltIn, pointerDeclarations],
    by simp [pointerBuiltIn, pointerAccess], ?_⟩
  intro (hc : c.ownsHandle = true)
  simp [pointerBuiltIn, pointerDeclarations, pointerAccess, hc, String.append_assoc]

/-- The templates that tell views apart. -/
def downcastBuiltIn (s : Settings) (c : ObjectClass) : BuiltIn where
  present := c.isTaggedRoot
  declared := downcastDeclarations s c
  defined := downcasts s c
  functions :=
    [("  template <class T> inline " ++ s.boolType ++ " isa();",
        s.boolType ++ " " ++ s.className c ++ "::isa()"),
      ("  template <class T> inline T as();", "T " ++ s.className c ++ "::as()")]

theorem downcastBuiltIn_inStep (s : Settings) (c : ObjectClass) : (downcastBuiltIn s c).InStep := by
  unfold downcastBuiltIn ObjectClass.isTaggedRoot downcastDeclarations downcasts
  cases c.role with
  | taggedRoot accessor => exact ⟨by simp, by simp, by simp⟩
  | plain | taggedView => exact ⟨by simp, by simp, by simp⟩

/-- The conversion to text. -/
def textBuiltIn (s : Settings) (c : ObjectClass) : BuiltIn where
  present := c.stringify.isSome
  declared := textDeclaration c
  defined := textConversion s c
  functions := [("  inline std::string to_str() const;",
    "std::string " ++ s.className c ++ r"::to_str() const {")]

theorem textBuiltIn_inStep (s : Settings) (c : ObjectClass) : (textBuiltIn s c).InStep := by
  unfold textBuiltIn textDeclaration textConversion
  cases c.stringify with
  | none => exact ⟨by simp, by simp, by simp⟩
  | some hook => exact ⟨by simp, by simp, by simp⟩

/-! ## Functions that every class has -/

/-- The constructors without arguments and from another object. -/
def constructorBuiltIn (s : Settings) (c : ObjectClass) : BuiltIn where
  present := true
  declared := publicConstructorDeclarations s c
  defined := publicConstructors s c
  functions :=
    let cpp := s.className c
    [("  inline /* implicit */ " ++ cpp ++ "();", cpp ++ "::" ++ cpp ++ "()"),
      ("  inline /* implicit */ " ++ cpp ++ "(const " ++ s.qualified cpp ++ " &obj);",
        cpp ++ "::" ++ cpp ++ "(const " ++ s.qualified cpp ++ " &obj)")]

theorem constructorBuiltIn_inStep (s : Settings) (c : ObjectClass) :
    (constructorBuiltIn s c).InStep := by
  unfold constructorBuiltIn publicConstructorDeclarations publicConstructors
  exact ⟨by simp, by simp, by simp⟩

/-- The constructor that takes a handle. -/
def adoptionBuiltIn (s : Settings) (c : ObjectClass) : BuiltIn where
  present := true
  declared := protectedConstructorDeclaration s c
  defined := protectedConstructor s c
  functions :=
    let cpp := s.className c
    [("  inline explicit " ++ cpp ++ "(" ++ rawPointer s c "take" ++ ");",
      cpp ++ "::" ++ cpp ++ "(" ++ rawPointer s c "take" ++ ")")]

theorem adoptionBuiltIn_inStep (s : Settings) (c : ObjectClass) : (adoptionBuiltIn s c).InStep := by
  unfold adoptionBuiltIn protectedConstructorDeclaration protectedConstructor
  exact ⟨by simp, by simp, by simp⟩

def assignmentBuiltIn (s : Settings) (c : ObjectClass) : BuiltIn where
  present := true
  declared := assignmentDeclaration s c
  defined := assignment s c
  functions :=
    let cpp := s.className c
    [("  inline " ++ s.qualified cpp ++ " &operator=(" ++ s.qualified cpp ++ " obj);",
      cpp ++ " &" ++ cpp ++ "::operator=(" ++ s.qualified cpp ++ r" obj) {")]

theorem assignmentBuiltIn_inStep (s : Settings) (c : ObjectClass) :
    (assignmentBuiltIn s c).InStep := by
  unfold assignmentBuiltIn assignmentDeclaration assignment
  exact ⟨by simp, by simp, by simp⟩

/-- Access to the context of an object. -/
def contextBuiltIn (s : Settings) (c : ObjectClass) : BuiltIn where
  present := true
  declared := contextDeclaration s
  defined := contextAccess s c
  functions := [("  inline " ++ s.qualified "ctx" ++ " get_ctx() const;",
    s.qualified "ctx" ++ " " ++ s.className c ++ r"::get_ctx() const {")]

theorem contextBuiltIn_inStep (s : Settings) (c : ObjectClass) : (contextBuiltIn s c).InStep := by
  unfold contextBuiltIn contextDeclaration contextAccess
  exact ⟨by simp, by simp, by simp⟩

/-! ## All of them -/

/-- All built-in functions of a class. -/
def builtIns (s : Settings) (c : ObjectClass) : List BuiltIn :=
  [factoryBuiltIn s c, destructorBuiltIn s c, pointerBuiltIn s c, downcastBuiltIn s c,
    textBuiltIn s c, constructorBuiltIn s c, adoptionBuiltIn s c, assignmentBuiltIn s c,
    contextBuiltIn s c]

theorem inStep_of_mem_builtIns {b : BuiltIn} (hmem : b ∈ builtIns s c) : b.InStep := by
  simp only [builtIns, List.mem_cons, List.not_mem_nil, or_false] at hmem
  rcases hmem with rfl | rfl | rfl | rfl | rfl | rfl | rfl | rfl | rfl
  · exact factoryBuiltIn_inStep s c
  · exact destructorBuiltIn_inStep s c
  · exact pointerBuiltIn_inStep s c
  · exact downcastBuiltIn_inStep s c
  · exact textBuiltIn_inStep s c
  · exact constructorBuiltIn_inStep s c
  · exact adoptionBuiltIn_inStep s c
  · exact assignmentBuiltIn_inStep s c
  · exact contextBuiltIn_inStep s c

/-- The declarations of built-in functions stand in the declaration, whatever the members are. -/
theorem declared_mem_declarationParts {b : BuiltIn} (hmem : b ∈ builtIns s c)
    (constructors methods : Code) : b.declared ∈ declarationParts s c constructors methods := by
  have hsubset : (builtIns s c).map BuiltIn.declared ⊆
      declarationParts s c constructors methods := by
    simp [builtIns, declarationParts, factoryBuiltIn, destructorBuiltIn, pointerBuiltIn,
      downcastBuiltIn, textBuiltIn, constructorBuiltIn, adoptionBuiltIn, assignmentBuiltIn,
      contextBuiltIn]
  exact hsubset (List.mem_map_of_mem hmem)

/-- The definitions of built-in functions stand in the implementation, whatever the members are. -/
theorem defined_mem_implementationParts {b : BuiltIn} (hmem : b ∈ builtIns s c)
    (constructors : List Code) (operators : Code) (methods : List Code) :
    b.defined ∈ implementationParts s c constructors operators methods := by
  have hsubset : (builtIns s c).map BuiltIn.defined ⊆
      implementationParts s c constructors operators methods := by
    simp [builtIns, implementationParts, factoryBuiltIn, destructorBuiltIn, pointerBuiltIn,
      downcastBuiltIn, textBuiltIn, constructorBuiltIn, adoptionBuiltIn, assignmentBuiltIn,
      contextBuiltIn]
  exact hsubset (List.mem_map_of_mem hmem)

/-! ## Parts of a text -/

namespace Code

theorem infix_spaced {piece : Code} {pieces : List Code} (h : piece ∈ pieces) :
    piece <:+: spaced pieces := by
  induction pieces with
  | nil => cases h
  | cons first rest ih =>
      cases rest with
      | nil =>
          rw [List.mem_singleton.1 h]
          exact List.infix_rfl
      | cons second rest =>
          rw [spaced]
          rcases List.mem_cons.1 h with rfl | h
          · exact List.infix_append_left
          · exact List.infix_append_of_infix_right (List.infix_cons (ih h))
          · exact List.cons_ne_nil _ _

/-- Every piece is in the text, an empty one trivially. -/
theorem infix_sections {piece : Code} {pieces : List Code} (h : piece ∈ pieces) :
    piece <:+: sections pieces := by
  cases piece with
  | nil => exact List.nil_infix
  | cons line rest => exact infix_spaced (List.mem_filter.2 ⟨h, rfl⟩)

end Code

end HandleWrap
