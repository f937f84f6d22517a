import HandleWrap.Method

set_option autoImplicit false

/-! # Text of a class

The declaration and the implementation of one wrapper class. A class that owns its handle has the
two factories, the special members and access to the raw pointer. A view has none of these; it
derives from the class that owns the handle and adds its tag and what that class needs to make
views. Both texts walk through the same members in the same order. -/

namespace HandleWrap

/-- The C type of the class as a raw pointer parameter with an ownership mark. -/
def rawPointer (s : Settings) (c : ObjectClass) (mark : String) : String :=
  s.ownershipMark mark ++ " " ++ c.name ++ " *ptr"

/-! ## Declarations -/

/-- The forward declaration. -/
def forwardDeclaration (s : Settings) (c : ObjectClass) : Code :=
  ["class " ++ s.className c ++ ";"]

/-- The declarations of the factories that wrap a raw handle, with `lead` in front. -/
def factoryDeclarations (s : Settings) (c : ObjectClass) (lead : String) : Code :=
  if c.ownsHandle then
    ["manage", "manage_copy"].zipWith (fun factory mark =>
      lead ++ "inline " ++ s.qualified (s.className c) ++ " " ++ factory ++ "(" ++
        rawPointer s c mark ++ ");") ["take", "keep"]
  else []

/-- What a view adds: the class that owns the handle may make views, and the tag. -/
def viewLines (s : Settings) (c : ObjectClass) : Code :=
  match c.role with
  | .taggedView _ tag =>
    ["  friend " ++ s.boolType ++ " " ++ s.baseClassName c ++ "::isa<" ++ s.className c ++ ">();",
      "  friend " ++ s.className c ++ " " ++ s.baseClassName c ++ "::as<" ++ s.className c ++
        ">();",
      "  static const auto type = " ++ tag ++ ";"]
  | _ => []

/-- The head of the class, with what it derives from. -/
def classHead (s : Settings) (c : ObjectClass) : String :=
  "class " ++ s.className c ++ " " ++
    (if c.ownsHandle then "" else ": public " ++ s.baseClassName c ++ " ") ++ r"{"

/-- The protected part up to its constructor: the handle. -/
def protectedLines (c : ObjectClass) : Code :=
  ["protected:"] ++
  (if c.ownsHandle then ["  " ++ c.name ++ " *ptr = nullptr;", ""] else [])

/-- The declaration of the constructor that takes a handle. -/
def protectedConstructorDeclaration (s : Settings) (c : ObjectClass) : Code :=
  ["  inline explicit " ++ s.className c ++ "(" ++ rawPointer s c "take" ++ ");"]

/-- The declarations of the constructors without arguments and from another object. -/
def publicConstructorDeclarations (s : Settings) (c : ObjectClass) : Code :=
  ["  inline /* implicit */ " ++ s.className c ++ "();",
    "  inline /* implicit */ " ++ s.className c ++ "(const " ++ s.qualified (s.className c) ++
      " &obj);"]

/-- The declaration of assignment. -/
def assignmentDeclaration (s : Settings) (c : ObjectClass) : Code :=
  let wrapper := s.qualified (s.className c)
  ["  inline " ++ wrapper ++ " &operator=(" ++ wrapper ++ " obj);"]

/-- The declaration of the destructor. -/
def destructorDeclaration (s : Settings) (c : ObjectClass) : Code :=
  if c.ownsHandle then ["  inline ~" ++ s.className c ++ "();"] else []

/-- The declarations of access to the raw pointer. -/
def pointerDeclarations (s : Settings) (c : ObjectClass) : Code :=
  if c.ownsHandle then
    let give := s.ownershipMark "give"
    let keep := s.ownershipMark "keep"
    ["  inline " ++ give ++ " " ++ c.name ++ " *copy() const &;",
      "  inline " ++ give ++ " " ++ c.name ++ " *copy() && = delete;",
      "  inline " ++ keep ++ " " ++ c.name ++ " *get() const;",
      "  inline " ++ give ++ " " ++ c.name ++ " *release();",
      "  inline bool is_null() const;",
      "  inline explicit operator bool() const;"]
  else []

/-- The declarations of the templates that tell views apart, on a root. -/
def downcastDeclarations (s : Settings) (c : ObjectClass) : Code :=
  match c.role with
  | .taggedRoot _ =>
    ["  template <class T> inline " ++ s.boolType ++ " isa();",
      "  template <class T> inline T as();"]
  | _ => []

/-- The declaration of the access to the context of an object. -/
def contextDeclaration (s : Settings) : Code :=
  ["  inline " ++ s.qualified "ctx" ++ " get_ctx() const;"]

/-- The declaration of the conversion to text. -/
def textDeclaration (c : ObjectClass) : Code :=
  if c.stringify.isSome then ["  inline std::string to_str() const;"] else []

/-- The declarations of members, in order. -/
def memberDeclarations (s : Settings) (t : ClassTable) (c : ObjectClass) (members : List Member) :
    Except GenerationError Code := do
  return (← members.mapM (memberDeclaration s t c)).flatten

/-- The declaration of the class around the declarations of its constructors and methods. -/
def declarationParts (s : Settings) (c : ObjectClass) (constructors methods : Code) : List Code :=
  [["// declarations for " ++ s.qualified (s.className c)],
    factoryDeclarations s c "",
    ["", classHead s c],
    viewLines s c,
    factoryDeclarations s c "  friend ",
    [""],
    protectedLines c,
    protectedConstructorDeclaration s c,
    ["", "public:"],
    publicConstructorDeclarations s c,
    constructors,
    assignmentDeclaration s c,
    destructorDeclaration s c,
    pointerDeclarations s c,
    downcastDeclarations s c,
    contextDeclaration s,
    textDeclaration c,
    [""],
    methods,
    ["  typedef " ++ c.name ++ "* " ++ s.cName "ptr_t" ++ ";", r"};"]]

/-- The declaration of the class. -/
def classDeclaration (s : Settings) (t : ClassTable) (c : ObjectClass) :
    Except GenerationError Code := do
  let constructors ← memberDeclarations s t c c.constructorMembers
  let methods ← memberDeclarations s t c c.methodMembers
  return (declarationParts s c constructors methods).flatten

/-! ## Implementations -/

/-- The statement that throws if the raw pointer is null, with exceptions on. -/
def pointerCheck (s : Settings) : Code :=
  if s.exceptions then "  if (!ptr)" :: throwNullInput s else []

/-- The factory that adopts a handle. -/
def adoptingFactory (s : Settings) (c : ObjectClass) : Code :=
  [s.qualified (s.className c) ++ " manage(" ++ rawPointer s c "take" ++ r") {"] ++
  pointerCheck s ++
  ["  return " ++ s.className c ++ "(ptr);", r"}"]

/-- The factory that copies a handle. -/
def copyingFactory (s : Settings) (c : ObjectClass) : Code :=
  [s.qualified (s.className c) ++ " manage_copy(" ++ rawPointer s c "keep" ++ r") {"] ++
  pointerCheck s ++
  (if s.exceptions then ["  auto ctx = " ++ c.name ++ "_get_ctx(ptr);"] else []) ++
  ["  ptr = " ++ c.name ++ "_copy(ptr);"] ++
  (if s.exceptions then "  if (!ptr)" :: throwLastError "ctx" else []) ++
  ["  return " ++ s.className c ++ "(ptr);", r"}"]

/-- Both factories. -/
def factories (s : Settings) (c : ObjectClass) : Code :=
  if c.ownsHandle then adoptingFactory s c ++ copyingFactory s c else []

/-- The constructors without arguments and from another object. -/
def publicConstructors (s : Settings) (c : ObjectClass) : Code :=
  let cpp := s.className c
  let base := s.baseClassName c
  [cpp ++ "::" ++ cpp ++ "()",
    if c.ownsHandle then "    : ptr(nullptr) {}" else "    : " ++ base ++ "() {}",
    "",
    cpp ++ "::" ++ cpp ++ "(const " ++ s.qualified cpp ++ " &obj)",
    if c.ownsHandle then "    : ptr(obj.copy())" else "    : " ++ base ++ "(obj)",
    r"{"] ++
  (if s.exceptions && c.ownsHandle then
    "  if (obj.ptr && !ptr)" :: throwLastError (c.name ++ "_get_ctx(obj.ptr)")
  else []) ++
  [r"}"]

/-- The constructor that takes a handle. -/
def protectedConstructor (s : Settings) (c : ObjectClass) : Code :=
  [s.className c ++ "::" ++ s.className c ++ "(" ++ rawPointer s c "take" ++ ")",
    if c.ownsHandle then "    : ptr(ptr) {}"
    else "    : " ++ s.baseClassName c ++ "(ptr) {}"]

/-- Assignment by exchange with a copy. -/
def assignment (s : Settings) (c : ObjectClass) : Code :=
  let cpp := s.className c
  [cpp ++ " &" ++ cpp ++ "::operator=(" ++ s.qualified cpp ++ r" obj) {",
    "  std::swap(this->ptr, obj.ptr);",
    "  return *this;",
    r"}"]

/-- The destructor. -/
def destructor (s : Settings) (c : ObjectClass) : Code :=
  if c.ownsHandle then
    [s.className c ++ "::~" ++ s.className c ++ r"() {",
      "  if (ptr)",
      "    " ++ c.name ++ "_free(ptr);",
      r"}"]
  else []

/-- Access to the raw pointer. -/
def pointerAccess (s : Settings) (c : ObjectClass) : Code :=
  if c.ownsHandle then
    let cpp := s.className c
    let give := s.ownershipMark "give"
    let keep := s.ownershipMark "keep"
    [give ++ " " ++ c.name ++ " *" ++ cpp ++ r"::copy() const & {",
      "  return " ++ c.name ++ "_copy(ptr);",
      r"}",
      "",
      keep ++ " " ++ c.name ++ " *" ++ cpp ++ r"::get() const {",
      "  return ptr;",
      r"}",
      "",
      give ++ " " ++ c.name ++ " *" ++ cpp ++ r"::release() {",
      "  " ++ c.name ++ " *tmp = ptr;",
      "  ptr = nullptr;",
      "  return tmp;",
      r"}",
      "",
      "bool " ++ cpp ++ r"::is_null() const {",
      "  return ptr == nullptr;",
      r"}",
      cpp ++ "::operator bool() const",
      r"{",
      "  return !is_null();",
      r"}"]
  else []

/-- The operator that writes an object to a stream. -/
def streamOperator (s : Settings) (c : ObjectClass) : Code :=
  if c.stringify.isSome then
    ["inline std::ostream& operator<<(std::ostream& os, const " ++ s.className c ++ r"& C) {",
      "  os << C.to_str();",
      "  return os;",
      r"}"]
  else []

/-- The public name of the method that the equality hook stands for. -/
def equalityMethod (s : Settings) (c : ObjectClass) (hook : CFunction) : String :=
  s.renamed (c.methodName hook)

/-- The operator that compares two objects. -/
def equalityOperator (s : Settings) (c : ObjectClass) : Except GenerationError Code :=
  match c.equality with
  | none => .ok []
  | some hook =>
    attributed hook.name do
      let result ← hook.returnType.cpp s
      return ["inline " ++ result ++ " operator==(const " ++ s.className c ++ "& C1, const " ++
          s.className c ++ r"& C2) {",
        "  return C1." ++ equalityMethod s c hook ++ "(C2);",
        r"}"]

/-- The operators that the hooks of the class ask for, with extensions on. -/
def operators (s : Settings) (c : ObjectClass) : Except GenerationError Code :=
  if s.extensions then do
    let equality ← equalityOperator s c
    return Code.sections [streamOperator s c, equality]
  else .ok []

/-- The conversion to text. -/
def textConversion (s : Settings) (c : ObjectClass) : Code :=
  match c.stringify with
  | none => []
  | some hook =>
    ["std::string " ++ s.className c ++ r"::to_str() const {",
      "  char *Tmp = " ++ hook.name ++ "(get());",
      "  if (!Tmp)",
      "    return \"\";",
      "  std::string S(Tmp);",
      "  free(Tmp);",
      "  return S;",
      r"}"]

/-- The templates that tell views apart, on a root. -/
def downcasts (s : Settings) (c : ObjectClass) : Code :=
  match c.role with
  | .taggedRoot accessor =>
    let cpp := s.className c
    ["template <class T>",
      s.boolType ++ " " ++ cpp ++ "::isa()",
      r"{",
      "  if (is_null())"] ++
    (if s.exceptions then throwNullInput s
      else ["    return " ++ s.qualified "boolean" ++ "();"]) ++
    ["  return " ++ accessor.name ++ "(get()) == T::type;",
      r"}",
      "template <class T>",
      "T " ++ cpp ++ "::as()",
      r"{"] ++
    (if s.exceptions then [] else ["  if (is_null())", "    return T();"]) ++
    ["  return isa<T>() ? T(copy()) : T();",
      r"}"]
  | _ => []

/-- The context of an object. -/
def contextAccess (s : Settings) (c : ObjectClass) : Code :=
  [s.qualified "ctx" ++ " " ++ s.className c ++ r"::get_ctx() const {",
    "  return " ++ s.qualified "ctx" ++ "(" ++ c.name ++ "_get_ctx(ptr));",
    r"}"]

/-- The implementation of the class around the definitions of its constructors and methods. -/
def implementationParts (s : Settings) (c : ObjectClass) (constructors : List Code)
    (operators : Code) (methods : List Code) : List Code :=
  [factories s c, publicConstructors s c, protectedConstructor s c] ++
  constructors ++
  [assignment s c, destructor s c, pointerAccess s c, operators, textConversion s c, downcasts s c,
    contextAccess s c] ++
  methods

/-- The implementation of the class: its parts in order, with a blank line between any two. -/
def classImplementation (s : Settings) (c : ObjectClass) : Except GenerationError Code := do
  let constructors ← c.constructorMembers.mapM (memberDefinition s c)
  let operators ← operators s c
  let methods ← c.methodMembers.mapM (memberDefinition s c)
  return ("// implementations for " ++ s.qualified (s.className c)) ::
    Code.sections (implementationParts s c constructors operators methods)

end HandleWrap
