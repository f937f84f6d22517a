import HandleWrap.CFunction
import HandleWrap.NameMap
import HandleWrap.Text.Affix

set_option autoImplicit false

/-! # Wrapper classes

A class wraps one C object type: its constructors, its methods grouped by public name, and the
hooks for equality and conversion to text. Classes over the same C type can form a hierarchy in
which a run-time tag tells the objects apart: the *tagged root* owns the handle and knows how to
read the tag, a *tagged view* stands for the objects of one tag and owns nothing (`Role`). -/

namespace HandleWrap

/-- One wrapper class. -/
structure ObjectClass where
  /-- The C object type, which a root shares with its views. -/
  name : String
  /-- The C name of a view, which is its tag constant too. -/
  subclassName : Option String := none
  /-- The C types of the classes that this one is a subclass of. -/
  superclasses : List String := []
  /-- The function that reads the tag of an object. -/
  typeTagAccessor : Option CFunction := none
  /-- The function that compares two objects. -/
  equality : Option CFunction := none
  /-- The function that turns an object into text. -/
  stringify : Option CFunction := none
  constructors : List CFunction := []
  /-- The overloads of each public name. -/
  methods : NameMap (List CFunction) := .empty
deriving Inhabited

/-- The position of a class among the classes over the same C type. -/
inductive Role where
  /-- An ordinary class that owns its handle. -/
  | plain
  /-- A class that owns its handle, whose tag selects a view. -/
  | taggedRoot (accessor : CFunction)
  /-- A view over the handle of `base`, selected by `tag`. -/
  | taggedView (base tag : String)
deriving Repr

/-- Whether objects of the class own their handle. -/
def Role.ownsHandle : Role → Bool
  | .taggedView _ _ => false
  | _ => true

namespace ObjectClass

/-! ## Building a class -/

/-- The class over the C type `name` without members. -/
def named (name : String) : ObjectClass where
  name := name

/-- The view over the C type `base` that its tag `subclassName` selects. -/
def viewOf (base subclassName : String) : ObjectClass where
  name := base
  subclassName := some subclassName
  superclasses := [base]

/-- The class with one more superclass. -/
def withSuperclass (c : ObjectClass) (name : String) : ObjectClass :=
  { c with superclasses := c.superclasses ++ [name] }

/-- The class with one more constructor. -/
def withConstructor (c : ObjectClass) (f : CFunction) : ObjectClass :=
  { c with constructors := c.constructors ++ [f] }

/-- The class with one more overload under the public name `name`. -/
def withMethod (c : ObjectClass) (name : String) (f : CFunction) : ObjectClass :=
  { c with methods := c.methods.insert name ((c.methods.get? name).getD [] ++ [f]) }

/-! ## What a class is -/

/-- The name that identifies the class: that of the view, else that of the C type. -/
def key (c : ObjectClass) : String :=
  c.subclassName.getD c.name

/-- Whether the class is a view that a run-time tag selects. -/
def isTaggedView (c : ObjectClass) : Bool :=
  match c.subclassName with
  | some sub => sub != c.name
  | none => false

/-- The position of the class; being a view comes before having a tag accessor. -/
def role (c : ObjectClass) : Role :=
  if c.isTaggedView then .taggedView c.name c.key
  else
    match c.typeTagAccessor with
    | some accessor => .taggedRoot accessor
    | none => .plain

/-- Whether objects of the class own their handle. -/
def ownsHandle (c : ObjectClass) : Bool :=
  c.role.ownsHandle

/-! ## The functions of a class -/

/-- The constructors, then the overloads of the method groups in order of their public names. -/
def functions (c : ObjectClass) : List CFunction :=
  c.constructors ++ c.methods.values.flatten

/-- What follows `start` and an underscore in a name. -/
def afterUnderscore? (start name : String) : Option String :=
  (Text.stripLeading? (start.toList ++ ['_']) name.toList).map String.ofList

/-- The public name of a function: its C name without the class name in front, where the name of
    the view is tried before that of the C type. -/
def methodName (c : ObjectClass) (f : CFunction) : String :=
  ((afterUnderscore? c.key f.name).or (afterUnderscore? c.name f.name)).getD f.name

/-- A public name is a part of the C name. -/
theorem mem_of_mem_methodName {c : ObjectClass} {f : CFunction} {x : Char}
    (hx : x ∈ (c.methodName f).toList) : x ∈ f.name.toList := by
  have hafter : ∀ {start rest}, afterUnderscore? start f.name = some rest →
      x ∈ rest.toList → x ∈ f.name.toList := by
    intro start rest h hx
    obtain ⟨chars, hchars, rfl⟩ := Option.map_eq_some_iff.1 h
    rw [String.toList_ofList] at hx
    rw [Text.eq_append_of_stripLeading? hchars]
    exact List.mem_append_right _ hx
  unfold methodName at hx
  cases hkey : afterUnderscore? c.key f.name with
  | some rest =>
      rw [hkey] at hx
      exact hafter hkey hx
  | none =>
      cases hname : afterUnderscore? c.name f.name with
      | some rest =>
          rw [hkey, hname] at hx
          exact hafter hname hx
      | none =>
          rw [hkey, hname] at hx
          exact hx

/-- How a function of the method groups is exposed: it is called on an object if its first
    parameter is a handle of the class's own C type. -/
def methodKind (c : ObjectClass) (f : CFunction) : MethodKind :=
  if f.firstParam?.bind (·.type.handleName?) = some c.name then .instanceMethod
  else .staticMethod

end ObjectClass

/-- A function as its class exposes it. -/
structure Member where
  /-- The public name, before renaming. -/
  name : String
  function : CFunction
  kind : MethodKind
deriving Repr

namespace ObjectClass

/-- The constructors as members, in order. -/
def constructorMembers (c : ObjectClass) : List Member :=
  c.constructors.map fun f => ⟨f.name, f, .constructor⟩

/-- The overloads of the method groups as members, in order of their public names. -/
def methodMembers (c : ObjectClass) : List Member :=
  c.methods.entries.flatMap fun group =>
    group.2.map fun f => ⟨group.1, f, c.methodKind f⟩

end ObjectClass

end HandleWrap
