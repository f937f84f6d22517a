import HandleWrap.Header
import HandleWrap.Proofs.TableAcceptance

set_option autoImplicit false

/-! # One class more

What is emitted for a class hardly depends on the other classes. The text of a class looks at the
table in one place: a constructor with a single parameter is declared as a conversion if the
parameter is an object of a subclass. In a table superclasses are keys, so a search that starts at
an old key never meets a new one (`reaches_eq`), and only a constructor that takes an object of the
new class can be declared differently (`classDeclaration_alike`). -/

namespace HandleWrap

/-- The larger table holds one class more than the smaller one, under a new key. -/
structure ClassTable.Extends (larger smaller : ClassTable) (d : ObjectClass) : Prop where
  new : smaller.get? d.key = none
  classes : larger.classes = smaller.classes.insert d.key d

/-- The only parameter of the function is an object of the class with that key. -/
def CFunction.TakesOnly (f : CFunction) (key : String) : Prop :=
  ∃ p, f.params = [p] ∧ p.type = .handle key

/-- `SameLine s c key line line'`: the lines are the same, or both declare one constructor of `c`
    that only takes an object of the class with that key, which is explicit in the first line and
    implicit in the second. -/
inductive SameLine (s : Settings) (c : ObjectClass) (key : String) : String → String → Prop where
  | same (line : String) : SameLine s c key line line
  | conversion {f : CFunction} {signature : Signature} (hf : f ∈ c.constructors)
      (htakes : f.TakesOnly key)
      (hsignature : s.signature c ⟨f.name, f, .constructor⟩ = .ok signature) :
      SameLine s c key ("  " ++ "inline explicit " ++ signature.text "" ++ ";")
        ("  " ++ "inline /* implicit */ " ++ signature.text "" ++ ";")

variable {s : Settings} {t t' : ClassTable} {c d : ObjectClass} {m : Member}

/-! ## The larger table -/

theorem ClassTable.Extends.get?_eq (h : t'.Extends t d) {key : String} (hkey : key ≠ d.key) :
    t'.get? key = t.get? key := by
  rw [ClassTable.get?, h.classes, NameMap.get?_insert, if_neg hkey]
  rfl

theorem ClassTable.Extends.ne_key (h : t'.Extends t d) {key : String}
    (hkey : (t.get? key).isSome = true) : key ≠ d.key := by
  rintro rfl
  rw [h.new] at hkey
  cases hkey

/-- Superclasses are keys. -/
theorem ClassTable.isSome_get?_of_mem_superclassesOf (t : ClassTable) {key name : String}
    (hname : name ∈ t.superclassesOf key) : (t.get? name).isSome = true := by
  unfold ClassTable.superclassesOf at hname
  split at hname
  · next c hc =>
      have hmem : c ∈ t.toList := (ClassTable.get?_eq_some_iff.1 hc).1
      have hfits := (ObjectClass.problem?_eq_none_iff t.keyed).1 (t.problem?_of_mem hmem)
      obtain ⟨parent, hparent, hkey⟩ := hfits.superclasses name hname
      rw [ClassTable.get?_eq_some_iff.2 ⟨hparent, hkey⟩]
      rfl
  · cases hname

theorem ClassTable.Extends.superclassesOf_eq (h : t'.Extends t d) {key : String}
    (hkey : key ≠ d.key) : t'.superclassesOf key = t.superclassesOf key := by
  rw [ClassTable.superclassesOf, ClassTable.superclassesOf, h.get?_eq hkey]

/-! ## The search -/

/-- Among old keys the search goes the same ways in both tables. -/
theorem reaches_eq (h : t'.Extends t d) (target : String) (met pending : List String)
    (hpending : ∀ name ∈ pending, (t.get? name).isSome = true) :
    t'.reaches target met pending = t.reaches target met pending := by
  -- along the search of the smaller table
  induction met, pending using ClassTable.reaches_induction t target with
  | done met => rw [ClassTable.reaches, ClassTable.reaches]
  | found met pending => rw [ClassTable.reaches_target, ClassTable.reaches_target]
  | skip met name pending hne hmet ih =>
      rw [ClassTable.reaches_skip t' hne hmet, ClassTable.reaches_skip t hne hmet,
        ih (List.forall_mem_cons.1 hpending).2]
  | expand met name pending hne hmet ih =>
      obtain ⟨hname, hpending⟩ := List.forall_mem_cons.1 hpending
      have hclosed : ∀ next ∈ t.superclassesOf name, (t.get? next).isSome = true :=
        fun next => t.isSome_get?_of_mem_superclassesOf
      rw [ClassTable.reaches_expand t' hne hmet, ClassTable.reaches_expand t hne hmet,
        h.superclassesOf_eq (h.ne_key hname), ih (List.forall_mem_append.2 ⟨hclosed, hpending⟩)]

/-- Which old classes are subclasses of which ones does not change. -/
theorem ClassTable.Extends.isSubclass_eq (h : t'.Extends t d) {sub : String} (hsub : sub ≠ d.key)
    (c : ObjectClass) : t'.isSubclass sub c = t.isSubclass sub c := by
  rw [ClassTable.isSubclass, ClassTable.isSubclass, h.superclassesOf_eq hsub]
  exact reaches_eq h c.key [] _ fun name => t.isSome_get?_of_mem_superclassesOf

/-- A class that is not in the table is no subclass. -/
theorem isSubclass_eq_false (hsub : t.get? d.key = none) (c : ObjectClass) :
    t.isSubclass d.key c = false := by
  rw [ClassTable.isSubclass, ClassTable.superclassesOf, hsub, ClassTable.reaches]

/-! ## Declarations of members -/

/-- Whether a constructor converts implicitly only hangs on the new class if it takes an object of
    that class. -/
theorem ClassTable.Extends.isImplicitConversion_eq (h : t'.Extends t d) (c : ObjectClass)
    {f : CFunction} (hf : ¬ f.TakesOnly d.key) :
    t'.isImplicitConversion c f = t.isImplicitConversion c f := by
  unfold ClassTable.isImplicitConversion
  split
  · next p hparams =>
      cases htype : p.type with
      | handle name =>
          have hname : name ≠ d.key := by
            rintro rfl
            exact hf ⟨p, hparams, htype⟩
          exact h.isSubclass_eq hname c
      | _ => rfl
  · rfl

theorem isImplicitConversion_eq_false (h : t.get? d.key = none) (c : ObjectClass) {f : CFunction}
    (hf : f.TakesOnly d.key) : t.isImplicitConversion c f = false := by
  obtain ⟨p, hparams, htype⟩ := hf
  have hconversion : t.isImplicitConversion c f = p.type.handleName?.any (t.isSubclass · c) := by
    rw [ClassTable.isImplicitConversion, hparams]
  rw [hconversion, htype]
  exact isSubclass_eq_false h c

/-- A constructor is declared alike in both tables. -/
theorem constructorDeclaration_alike (h : t'.Extends t d) {f : CFunction}
    (hf : f ∈ c.constructors) :
    Alike (List.Forall₂ (SameLine s c d.key)) (memberDeclaration s t c ⟨f.name, f, .constructor⟩)
      (memberDeclaration s t' c ⟨f.name, f, .constructor⟩) := by
  refine Alike.attributed (alike_bind_self fun signature hsignature => .ok (.cons ?_ .nil)) _
  unfold ClassTable.qualifiers
  by_cases htakes : f.TakesOnly d.key
  · -- the old table does not know the new class, the new one may
    rw [isImplicitConversion_eq_false h.new c htakes]
    cases t'.isImplicitConversion c f with
    | true => exact .conversion hf htakes hsignature
    | false => exact .same _
  · rw [h.isImplicitConversion_eq c htakes]
    exact .same _

/-- Only constructors are declared by the table. -/
theorem memberDeclaration_eq (s : Settings) (t t' : ClassTable) (c : ObjectClass)
    (hm : m.kind ≠ .constructor) : memberDeclaration s t' c m = memberDeclaration s t c m := by
  have hqualifiers : t'.qualifiers c m = t.qualifiers c m := by
    unfold ClassTable.qualifiers
    cases hkind : m.kind with
    | constructor => exact absurd hkind hm
    | _ => rfl
  rw [memberDeclaration, memberDeclaration, hqualifiers]

theorem kind_ne_constructor (hm : m ∈ c.methodMembers) : m.kind ≠ .constructor := by
  obtain ⟨group, _, hm⟩ := List.mem_flatMap.1 hm
  obtain ⟨f, _, rfl⟩ := List.mem_map.1 hm
  unfold ObjectClass.methodKind
  split
  · exact nofun
  · exact nofun

/-! ## Declarations of classes -/

theorem SameLine.forall₂_self (s : Settings) (c : ObjectClass) (key : String) (code : Code) :
    List.Forall₂ (SameLine s c key) code code :=
  List.forall₂_same.2 fun line _ => .same line

theorem memberDeclarations_alike {R : String → String → Prop} {members : List Member}
    (h : ∀ m ∈ members, Alike (List.Forall₂ R) (memberDeclaration s t c m)
      (memberDeclaration s t' c m)) :
    Alike (List.Forall₂ R) (memberDeclarations s t c members)
      (memberDeclarations s t' c members) := by
  refine (alike_mapM h).bind fun pieces pieces' hpieces => .ok ?_
  exact List.rel_flatten hpieces

/-- **Declarations end alike:** with the same error, or with the same lines but for conversions from
    the new class. -/
theorem classDeclaration_alike (h : t'.Extends t d) (s : Settings) (c : ObjectClass) :
    Alike (List.Forall₂ (SameLine s c d.key)) (classDeclaration s t c)
      (classDeclaration s t' c) := by
  have hself : ∀ code, List.Forall₂ (SameLine s c d.key) code code :=
    SameLine.forall₂_self s c d.key
  have hconstructors : Alike (List.Forall₂ (SameLine s c d.key))
      (memberDeclarations s t c c.constructorMembers)
      (memberDeclarations s t' c c.constructorMembers) := by
    refine memberDeclarations_alike fun m hm => ?_
    obtain ⟨f, hf, rfl⟩ := List.mem_map.1 hm
    exact constructorDeclaration_alike h hf
  have hmethods : Alike (List.Forall₂ (SameLine s c d.key))
      (memberDeclarations s t c c.methodMembers)
      (memberDeclarations s t' c c.methodMembers) := by
    refine memberDeclarations_alike fun m hm => ?_
    rw [memberDeclaration_eq s t t' c (kind_ne_constructor hm)]
    exact alike_self hself _
  refine hconstructors.bind fun constructors constructors' hconstructors => ?_
  refine hmethods.bind fun methods methods' hmethods => .ok (List.rel_flatten ?_)
  simp only [declarationParts, List.forall₂_cons, hself, hconstructors, hmethods, and_self,
    List.Forall₂.nil]

/-! ## Both tables -/

/-- What a run over the table makes of the class under a key in its second pass. -/
def ClassTable.implementation? (t : ClassTable) (s : Settings) (key : String) :
    Option (Except GenerationError Code) :=
  (t.get? key).map (classImplementation s)

theorem exists_insertEntry_eq {α : Type} (name : String) (value : α) {entries : List (String × α)}
    (hnew : name ∉ entries.map (·.1)) : ∃ before after, entries = before ++ after ∧
      NameMap.insertEntry name value entries = before ++ (name, value) :: after := by
  induction entries with
  | nil => exact ⟨[], [], rfl, rfl⟩
  | cons entry rest ih =>
      rw [List.map_cons, List.mem_cons, not_or] at hnew
      rw [NameMap.insertEntry]
      split
      · exact ⟨[], entry :: rest, rfl, rfl⟩
      · obtain ⟨before, after, hrest, hinsert⟩ := ih hnew.2
        refine ⟨entry :: before, after, by rw [hrest, List.cons_append], ?_⟩
        rw [if_neg hnew.1, hinsert, List.cons_append]

/-- The classes of the larger table are those of the smaller one, in the same order, and the new
    one in between. -/
theorem ClassTable.Extends.exists_toList_eq (h : t'.Extends t d) :
    ∃ before after, t.toList = before ++ after ∧ t'.toList = before ++ d :: after := by
  have hnew : d.key ∉ t.classes.names := by
    rw [← t.classes.contains_eq_true_iff, NameMap.contains, ← ClassTable.get?, h.new]
    exact Bool.false_ne_true
  obtain ⟨before, after, hentries, hinsert⟩ := exists_insertEntry_eq d.key d hnew
  refine ⟨before.map (·.2), after.map (·.2), ?_, ?_⟩
  · rw [ClassTable.toList, NameMap.values, hentries, List.map_append]
  · have hvalues : (t.classes.insert d.key d).values
        = (NameMap.insertEntry d.key d t.classes.entries).map (·.2) := rfl
    rw [ClassTable.toList, h.classes, hvalues, hinsert, List.map_append, List.map_cons]

/-- **One class more changes next to nothing for the others.** Both passes still walk through them
    in the same order. Their implementations stay, and so do their declarations, except that a
    constructor that only takes an object of the new class may turn from explicit to implicit. -/
theorem emission_local (h : t'.Extends t d) (hc : c ∈ t.toList) (s : Settings) :
    (∃ before after, t.toList = before ++ after ∧ t'.toList = before ++ d :: after) ∧
    t.implementation? s c.key = some (classImplementation s c) ∧
    t'.implementation? s c.key = t.implementation? s c.key ∧
    ((∀ f ∈ c.constructors, ¬ f.TakesOnly d.key) →
      classDeclaration s t' c = classDeclaration s t c) ∧
    Alike (List.Forall₂ (SameLine s c d.key)) (classDeclaration s t c)
      (classDeclaration s t' c) := by
  have hget : t.get? c.key = some c := ClassTable.get?_eq_some_iff.2 ⟨hc, rfl⟩
  have hkey : c.key ≠ d.key := h.ne_key (by rw [hget]; rfl)
  refine ⟨h.exists_toList_eq, by rw [ClassTable.implementation?, hget]; rfl, ?_, fun hnone => ?_,
    classDeclaration_alike h s c⟩
  · rw [ClassTable.implementation?, ClassTable.implementation?, h.get?_eq hkey]
  · have hsame : ∀ line line', SameLine s c d.key line line' → line = line' := by
      rintro _ _ (⟨line⟩ | ⟨hf, htakes, _⟩)
      · rfl
      · exact absurd htakes (hnone _ hf)
    refine ((classDeclaration_alike h s c).eq fun code code' hlines => ?_).symm
    exact List.forall₂_eq_eq_eq ▸ hlines.imp hsame

/-- A class whose constructor turns into a conversion once `setClass` is there. -/
def unionSet : ObjectClass :=
  (ObjectClass.named "isl_union_set").withConstructor
    { name := "isl_union_set_from_set", returnType := .handle "isl_union_set", givesResult := true
      params := [⟨"set", .handle "isl_set", .take⟩] }

def setClass : ObjectClass :=
  (ObjectClass.named "isl_set").withSuperclass "isl_union_set"

theorem emission_local_unionSet :
    ∃ t t', ClassTable.ofClasses [unionMap, unionSet] = .ok t ∧
      ClassTable.ofClasses [unionMap, unionSet, setClass] = .ok t' ∧ t'.Extends t setClass ∧
      unionMap ∈ t.toList ∧ unionSet ∈ t.toList ∧
      (∃ before after, t.toList = before ++ after ∧ t'.toList = before ++ setClass :: after) ∧
      t'.implementation? .standard unionSet.key = t.implementation? .standard unionSet.key ∧
      classDeclaration .standard t' unionMap = classDeclaration .standard t unionMap ∧
      Alike (List.Forall₂ (SameLine .standard unionSet setClass.key))
        (classDeclaration .standard t unionSet) (classDeclaration .standard t' unionSet) := by
  obtain ⟨t, ht⟩ : Succeeds (ClassTable.ofClasses [unionMap, unionSet]) := ⟨_, rfl⟩
  obtain ⟨t', ht'⟩ : Succeeds (ClassTable.ofClasses [unionMap, unionSet, setClass]) := ⟨_, rfl⟩
  have hextends : t'.Extends t setClass := by
    cases ht; cases ht'
    exact ⟨rfl, rfl⟩
  have hlist : t.toList = [unionMap, unionSet] := by
    cases ht
    rfl
  have hmap : unionMap ∈ t.toList := hlist ▸ List.mem_cons_self
  have hset : unionSet ∈ t.toList := hlist ▸ List.mem_cons_of_mem _ List.mem_cons_self
  have hnone : ∀ f ∈ unionMap.constructors, ¬ f.TakesOnly setClass.key := fun f hf => by cases hf
  obtain ⟨_, _, _, hsame, _⟩ := emission_local hextends hmap .standard
  obtain ⟨hpasses, _, himplementation, _, halike⟩ := emission_local hextends hset .standard
  exact ⟨t, t', ht, ht', hextends, hmap, hset, hpasses, himplementation, hsame hnone, halike⟩

end HandleWrap
