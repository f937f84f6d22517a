import HandleWrap.ClassText

set_option autoImplicit false

/-! # The generated header

The whole output for a table: an include guard, the headers to include, and inside the namespace
all forward declarations, all declarations and all implementations, in order of the class keys.
There is output only if every class can be generated. `events` lists what a run reports on its
way. -/

namespace HandleWrap

/-! ## The three passes -/

/-- The forward declarations of all classes. -/
def forwardDeclarations (s : Settings) (t : ClassTable) : Code :=
  "// forward declarations" :: t.toList.flatMap (forwardDeclaration s)

/-- The declarations of all classes. -/
def declarations (s : Settings) (t : ClassTable) : Except GenerationError Code := do
  return Code.spaced (← t.toList.mapM (classDeclaration s t))

/-- The implementations of all classes. -/
def implementations (s : Settings) (t : ClassTable) : Except GenerationError Code := do
  return Code.spaced (← t.toList.mapM (classImplementation s))

/-! ## The frame -/

/-- The directive that includes a header; a name that comes with its own quotes is taken as it
    is. -/
def includeLine (header : String) : String :=
  match header.toList.head? with
  | some '<' | some '"' => "#include " ++ header
  | _ => "#include <" ++ header ++ ">"

/-- What stands before the declarations. -/
def opening (s : Settings) : Code :=
  (match s.headerGuard with
    | some guard => ["#ifndef " ++ guard, "#define " ++ guard, ""]
    | none => []) ++
  s.includes.map includeLine ++
  ["", "namespace " ++ s.targetNamespace ++ r" {", ""] ++
  (if s.exceptions then [] else ["inline namespace " ++ s.quietNamespace ++ r" {", ""])

/-- What stands after the implementations. -/
def closing (s : Settings) : Code :=
  (if s.exceptions then [] else [r"} // namespace " ++ s.quietNamespace]) ++
  [r"} // namespace " ++ s.targetNamespace] ++
  (match s.headerGuard with
    | some guard => ["", "#endif /* " ++ guard ++ " */"]
    | none => [])

/-- The lines of the header for a table. -/
def header (s : Settings) (t : ClassTable) : Except GenerationError Code := do
  let declarations ← declarations s t
  let implementations ← implementations s t
  return opening s ++
    forwardDeclarations s t ++ [""] ++
    declarations ++ [""] ++
    implementations ++
    closing s

/-- The text of the header for a table. -/
def generate (s : Settings) (t : ClassTable) : Except GenerationError String := do
  return (← header s t).render

/-! ## What a run reports -/

/-- Something that a run reports. -/
inductive Event where
  | declarations (classes : Nat)
  | declaring (key : String)
  | implementations (classes : Nat)
  | implementing (key : String) (methods : Nat)
  | generated (classes bytes : Nat)
deriving Repr

/-- Whether an event is part of the outline of a run or a detail. -/
def Event.isDetail : Event → Bool
  | .declaring _ | .implementing _ _ => true
  | _ => false

/-- What an event says. -/
def Event.message : Event → String
  | .declarations _ => "emitting declarations"
  | .declaring _ => "declaring class"
  | .implementations _ => "emitting implementations"
  | .implementing _ _ => "implementing class"
  | .generated _ _ => "generated C++ bindings"

/-- The named values that come with an event. -/
def Event.fields : Event → List (String × String)
  | .declarations classes => [("classes", toString classes)]
  | .declaring key => [("class", key)]
  | .implementations classes => [("classes", toString classes)]
  | .implementing key methods => [("class", key), ("methods", toString methods)]
  | .generated classes bytes => [("classes", toString classes), ("bytes", toString bytes)]

/-- The events of work on each class, up to the first class that fails, and whether all went
    well. -/
def passEvents {α : Type} (announce : ObjectClass → Event)
    (work : ObjectClass → Except GenerationError α) : List ObjectClass → List Event × Bool
  | [] => ([], true)
  | c :: rest =>
    match work c with
    | .error _ => ([announce c], false)
    | .ok _ =>
      let (events, ok) := passEvents announce work rest
      (announce c :: events, ok)

/-- Number of methods of a class. -/
def ObjectClass.methodCount (c : ObjectClass) : Nat :=
  c.methods.values.flatten.length

/-- What a run over a table reports, in order. -/
def events (s : Settings) (t : ClassTable) : List Event :=
  let (declaring, declared) :=
    passEvents (fun c => .declaring c.key) (classDeclaration s t) t.toList
  let (implementing, implemented) :=
    passEvents (fun c => .implementing c.key c.methodCount) (classImplementation s) t.toList
  .declarations t.size :: declaring ++
    (if declared then .implementations t.size :: implementing else []) ++
    (if declared && implemented then
      match generate s t with
      | .ok text => [.generated t.size text.utf8ByteSize]
      | .error _ => []
    else [])

end HandleWrap
