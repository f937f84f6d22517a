import HandleWrap.ObjectClass

set_option autoImplicit false

/-! # The class table

A `ClassTable` holds all wrapper classes under their keys, and only tables that fit together exist:
superclasses are known, views have a root that can read the tag, equality hooks have a method to
call, overloads are told apart by their C names, functions have names, and callbacks and user-data
parameters come in pairs. `NameMap.problem?` finds the first thing that does not fit, in order of
the keys. -/

namespace HandleWrap

/-- Why classes do not make a table. -/
inductive TableError where
  /-- A class has no C name. -/
  | emptyName
  /-- Two classes have the same key. -/
  | duplicateClass (key : String)
  | unknownSuperclass (key superclass : String)
  /-- The view `key` needs the class `base` to have a tag accessor. -/
  | missingTaggedRoot (key base : String)
  | unnamedFunction (key : String)
  | duplicateOverload (key method function : String)
  /-- A callback parameter is not followed by its user-data parameter. -/
  | callbackWithoutUserData (function param : String)
  /-- The signature of a callback parameter does not end in user data. -/
  | callbackSignatureWithoutUserData (function param : String)
  /-- The method that an equality hook stands for does not exist. -/
  | missingEqualityMethod (key function method : String)
  /-- A user-data parameter does not follow a callback. -/
  | danglingUserData (function param : String)
deriving DecidableEq, Repr

/-- The message for the user. -/
def TableError.message : TableError → String
  | .emptyName => "class name cannot be empty"
  | .duplicateClass key => "duplicate class: " ++ key
  | .unknownSuperclass key superclass =>
    "class " ++ key ++ " refers to unknown superclass " ++ superclass
  | .missingTaggedRoot key base =>
    "subclass " ++ key ++ " needs class " ++ base ++ " with a type tag accessor"
  | .unnamedFunction key => "class " ++ key ++ " lists a function without a name"
  | .duplicateOverload key method function =>
    "method group " ++ key ++ "::" ++ method ++ " lists " ++ function ++ " twice"
  | .callbackWithoutUserData function param =>
    "callback parameter " ++ param ++ " of " ++ function ++
      " is not followed by a user data parameter"
  | .callbackSignatureWithoutUserData function param =>
    "callback parameter " ++ param ++ " of " ++ function ++
      " does not end in a user data argument"
  | .missingEqualityMethod key function method =>
    "equality hook " ++ function ++ " of " ++ key ++ " has no method group " ++ method
  | .danglingUserData function param =>
    "user data parameter " ++ param ++ " of " ++ function ++ " does not follow a callback"

/-! ## What can be wrong with one function -/

/-- The first parameter that breaks the pairing of callbacks with user data: a callback ends in user
    data and is followed by a user-data parameter, and no other parameter is user data. The flag
    says whether the parameter before is a callback. -/
def pairingProblem? (function : String) : Bool → List Param → Option TableError
  | _, [] => none
  | afterCallback, p :: rest =>
    match p.type with
    | .callback signature =>
      if !signature.endsInUserData then
        some (.callbackSignatureWithoutUserData function p.name)
      else if !(rest.head?.any (·.type.isUserData)) then
        some (.callbackWithoutUserData function p.name)
      else pairingProblem? function true rest
    | .userData =>
      if afterCallback then pairingProblem? function false rest
      else some (.danglingUserData function p.name)
    | _ => pairingProblem? function false rest

/-- The first thing wrong with a function of the class `key`. -/
def CFunction.problem? (key : String) (f : CFunction) : Option TableError :=
  if f.name.isEmpty then some (.unnamedFunction key) else pairingProblem? f.name false f.params

/-! ## What can be wrong with one class -/

/-- The first name in a list that has occurred before. -/
def firstRepeated? : List String → Option String
  | names => go [] names
where
  go (seen : List String) : List String → Option String
    | [] => none
    | name :: rest => if seen.contains name then some name else go (name :: seen) rest

namespace ObjectClass

/-- The first superclass that is not in the table. -/
def superclassProblem? (classes : NameMap ObjectClass) (c : ObjectClass) : Option TableError :=
  (c.superclasses.find? fun name => !classes.contains name).map (.unknownSuperclass c.key ·)

/-- A view needs the class of its C type to read the tag. -/
def rootProblem? (classes : NameMap ObjectClass) (c : ObjectClass) : Option TableError :=
  if c.isTaggedView && !((classes.get? c.name).any (·.typeTagAccessor.isSome)) then
    some (.missingTaggedRoot c.key c.name)
  else none

/-- An equality hook needs the method group that it is called through. -/
def equalityProblem? (c : ObjectClass) : Option TableError :=
  c.equality.bind fun f =>
    if c.methods.contains (c.methodName f) then none
    else some (.missingEqualityMethod c.key f.name (c.methodName f))

/-- The overloads of a group have distinct C names. -/
def overloadProblem? (c : ObjectClass) : Option TableError :=
  c.methods.entries.findSome? fun group =>
    (firstRepeated? (group.2.map (·.name))).map (.duplicateOverload c.key group.1 ·)

/-- The first thing wrong with a class. -/
def problem? (classes : NameMap ObjectClass) (c : ObjectClass) : Option TableError :=
  (c.superclassProblem? classes).or <|
  (c.rootProblem? classes).or <|
  c.equalityProblem?.or <|
  c.overloadProblem?.or <|
  c.functions.findSome? (CFunction.problem? c.key)

end ObjectClass

/-! ## Tables -/

/-- The first thing wrong with the classes, in order of their keys. -/
def NameMap.problem? (classes : NameMap ObjectClass) : Option TableError :=
  classes.values.findSome? (ObjectClass.problem? classes)

/-- Every class stands under its own key. -/
def NameMap.Keyed (classes : NameMap ObjectClass) : Prop :=
  ∀ e ∈ classes.entries, e.1 = e.2.key

/-- A table of wrapper classes that fit together. -/
structure ClassTable where
  classes : NameMap ObjectClass
  keyed : classes.Keyed
  valid : classes.problem? = none

/-- Puts classes under their keys, each with a C name and no two under one key. -/
def collect (classes : NameMap ObjectClass) :
    List ObjectClass → Except TableError (NameMap ObjectClass)
  | [] => .ok classes
  | c :: rest =>
    if c.name.isEmpty then .error .emptyName
    else if classes.contains c.key then .error (.duplicateClass c.key)
    else collect (classes.insert c.key c) rest

theorem keyed_of_collect {classes : NameMap ObjectClass} (h : classes.Keyed)
    {list : List ObjectClass} {m : NameMap ObjectClass} (hm : collect classes list = .ok m) :
    m.Keyed := by
  induction list generalizing classes with
  | nil => cases hm; exact h
  | cons c rest ih =>
    simp only [collect] at hm
    split at hm
    · cases hm
    · split at hm
      · cases hm
      · refine ih (fun e he => ?_) hm
        rcases NameMap.mem_insertEntry he with rfl | he
        · rfl
        · exact h e he

namespace ClassTable

/-- The table without classes. -/
def empty : ClassTable where
  classes := .empty
  keyed := fun e he => by cases he
  valid := rfl

instance : Inhabited ClassTable := ⟨empty⟩

/-- The table of a list of classes, if they fit together. -/
def ofClasses (list : List ObjectClass) : Except TableError ClassTable :=
  match hm : collect .empty list with
  | .error e => .error e
  | .ok classes =>
    match hv : classes.problem? with
    | some e => .error e
    | none => .ok ⟨classes, keyed_of_collect (fun e he => by cases he) hm, hv⟩

/-- The class with that key. -/
def get? (t : ClassTable) (key : String) : Option ObjectClass :=
  t.classes.get? key

/-- The classes in order of their keys. -/
def toList (t : ClassTable) : List ObjectClass :=
  t.classes.values

/-- Number of classes. -/
def size (t : ClassTable) : Nat :=
  t.classes.size

end ClassTable

end HandleWrap
