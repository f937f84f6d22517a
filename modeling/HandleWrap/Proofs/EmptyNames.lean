import HandleWrap.Proofs.EqualityOperator

set_option autoImplicit false

/-! # Empty names in a table

A class holds names in eight places (`NamePlace`), and the check of a table looks for empty ones in
three of them: the C type, the constructors and the overloads of methods. An equality hook without a
name gets through only with a method group without a name. Nothing looks at the name of a view, at
the names of method groups, or at those of the hooks that turn an object into text and that read its
tag; the check does not even depend on these two hooks (`ofClasses_changeHooks`). All of the names
are written into the output (`NamesWritten`), so a table may be accepted whose output calls
functions without a name (`not_named_namelessSet`). -/

namespace HandleWrap

variable {s : Settings} {c : ObjectClass} {t : ClassTable} {list classes : List ObjectClass}

/-! ## The places of names -/

/-- Where a class holds a name. -/
inductive NamePlace where
  | type
  | view
  | group
  | constructor
  | method
  | equality
  | stringify
  | tagAccessor
deriving DecidableEq, Repr

/-- Whether the check of a table looks for an empty name there. -/
def NamePlace.isChecked : NamePlace → Bool
  | type | constructor | method => true
  | view | group | equality | stringify | tagAccessor => false

namespace ObjectClass

/-- The names that the class holds in a place. -/
def namesAt (c : ObjectClass) : NamePlace → List String
  | .type => [c.name]
  | .view => c.subclassName.toList
  | .group => c.methods.names
  | .constructor => c.constructors.map (·.name)
  | .method => c.methods.values.flatten.map (·.name)
  | .equality => c.equality.toList.map (·.name)
  | .stringify => c.stringify.toList.map (·.name)
  | .tagAccessor => c.typeTagAccessor.toList.map (·.name)

/-- The class with other functions behind the hooks that turn an object into text and that read its
    tag. -/
def changeHooks (change : CFunction → CFunction) (c : ObjectClass) : ObjectClass :=
  { c with
    stringify := c.stringify.map change
    typeTagAccessor := c.typeTagAccessor.map change }

end ObjectClass

/-! ## What the check excludes -/

theorem name_ne_empty_of_mem_functions (hc : c.FitsAmong classes) {functions : List CFunction}
    (h : functions ⊆ c.functions) : "" ∉ functions.map (·.name) := by
  intro hmem
  obtain ⟨f, hf, hname⟩ := List.mem_map.1 hmem
  exact (hc.functions f (h hf)).1 hname

/-- No place that is checked holds an empty name. -/
theorem empty_notMem_of_isChecked (hc : c.FitsAmong classes) (hname : c.name ≠ "")
    {place : NamePlace} (hplace : place.isChecked = true) : "" ∉ c.namesAt place := by
  cases place with
  | type => exact fun hmem => hname (List.mem_singleton.1 hmem).symm
  | constructor => exact name_ne_empty_of_mem_functions hc (List.subset_append_left _ _)
  | method => exact name_ne_empty_of_mem_functions hc (List.subset_append_right _ _)
  | _ => cases hplace

/-- A function without a name is a method without a name, since nothing can be cut off. -/
theorem methodName_of_name_eq_empty {f : CFunction} (hf : f.name = "") : c.methodName f = "" := by
  have hafter : ∀ start, ObjectClass.afterUnderscore? start "" = none := by
    intro start
    cases hrest : Text.stripLeading? (start.toList ++ ['_']) "".toList with
    | none => rw [ObjectClass.afterUnderscore?, hrest]; rfl
    | some rest =>
        have happend := congrArg List.length (Text.eq_append_of_stripLeading? hrest)
        simp at happend
  rw [ObjectClass.methodName, hf, hafter, hafter]
  rfl

/-- An equality hook without a name needs a method group without one. -/
theorem empty_mem_groups (hc : c.FitsAmong classes) (h : "" ∈ c.namesAt .equality) :
    "" ∈ c.namesAt .group := by
  obtain ⟨hook, hhook, hname⟩ := List.mem_map.1 h
  have hgroup := hc.equality hook (Option.mem_toList.1 hhook)
  rwa [methodName_of_name_eq_empty hname] at hgroup

/-- A key is empty only as the name of a view. -/
theorem key_eq_empty_iff (hname : c.name ≠ "") : c.key = "" ↔ "" ∈ c.namesAt .view := by
  unfold ObjectClass.key ObjectClass.namesAt
  cases c.subclassName with
  | none => simp [hname]
  | some sub => simp [eq_comm]

/-- Such a view has a root like any other. -/
theorem exists_root_of_key_eq_empty (hc : c.FitsAmong classes) (hname : c.name ≠ "")
    (hkey : c.key = "") : c.isTaggedView = true ∧
      ∃ root ∈ classes, root.key = c.name ∧ root.typeTagAccessor ≠ none := by
  have hsub : c.subclassName = some "" := Option.mem_toList.1 ((key_eq_empty_iff hname).1 hkey)
  exact ⟨isTaggedView_eq_true_iff.2 ⟨"", hsub, hname.symm⟩, hc.root "" hsub hname.symm⟩

/-! ## Hooks that are not checked -/

theorem fitsAmong_changeHooks (change : CFunction → CFunction) (hc : c.FitsAmong classes) :
    (c.changeHooks change).FitsAmong (classes.map (·.changeHooks change)) := by
  refine ⟨fun name hname => ?_, fun sub hsub hne => ?_, hc.equality, hc.overloads, hc.functions⟩
  · obtain ⟨d, hd, hkey⟩ := hc.superclasses name hname
    exact ⟨d.changeHooks change, List.mem_map_of_mem hd, hkey⟩
  · obtain ⟨d, hd, hkey, haccessor⟩ := hc.root sub hsub hne
    exact ⟨d.changeHooks change, List.mem_map_of_mem hd, hkey,
      fun hnone => haccessor (Option.map_eq_none_iff.1 hnone)⟩

theorem fitTogether_changeHooks (change : CFunction → CFunction) (h : FitTogether list) :
    FitTogether (list.map (·.changeHooks change)) := by
  -- a key is made of the two names that stay
  have hkeys : (list.map (·.changeHooks change)).map (·.key) = list.map (·.key) := List.map_map
  refine ⟨List.forall_mem_map.2 h.named, hkeys ▸ h.distinct, List.forall_mem_map.2 fun c hc => ?_⟩
  exact fitsAmong_changeHooks change (h.fits c hc)

/-- Classes that stand in order of their keys are known from what they are. -/
theorem eq_of_perm_of_sorted {list' : List ObjectClass} (h : list.Perm list')
    (hlist : list.Pairwise fun c d => c.key < d.key)
    (hlist' : list'.Pairwise fun c d => c.key < d.key) : list = list' :=
  h.eq_of_pairwise (fun _ _ _ _ hlt hgt => absurd hgt (String.lt_asymm hlt)) hlist hlist'

/-- The check of a table does not read the hooks that turn an object into text and that read its
    tag: others in their place make a table with the same classes around them. -/
theorem ofClasses_changeHooks (h : ClassTable.ofClasses list = .ok t)
    (change : CFunction → CFunction) :
    ∃ t', ClassTable.ofClasses (list.map (·.changeHooks change)) = .ok t' ∧
      t'.toList = t.toList.map (·.changeHooks change) := by
  obtain ⟨t', ht'⟩ : Succeeds (ClassTable.ofClasses (list.map (·.changeHooks change))) :=
    succeeds_ofClasses_iff.2 (fitTogether_changeHooks change (succeeds_ofClasses_iff.1 ⟨t, h⟩))
  have hperm : t'.toList.Perm (t.toList.map (·.changeHooks change)) :=
    (holds_of_ofClasses ht').perm.trans ((holds_of_ofClasses h).perm.map _).symm
  exact ⟨t', ht', eq_of_perm_of_sorted hperm t'.sorted (List.pairwise_map.2 t.sorted)⟩

/-! ## Where names are written -/

/-- How the names of a class are written into the output. -/
structure NamesWritten (s : Settings) (t : ClassTable) (c : ObjectClass) (lines : Code) : Prop where
  /-- Every constructor and method calls its function. -/
  functions : ∀ m ∈ c.constructorMembers ++ c.methodMembers, ∃ args,
    "  auto res = " ++ m.function.name ++ "(" ++ ", ".intercalate args ++ ");" ∈ lines
  /-- Every method is declared under the public name of its group. -/
  groups : ∀ m ∈ c.methodMembers, ∃ declaration, declaration <:+: lines ∧
    DeclaredAs s t c declaration m (s.renamed m.name)
  /-- The comparison calls the method that its hook stands for. -/
  equality : s.extensions = true → ∀ hook, c.equality = some hook →
    equalityCall (s.renamed (c.methodName hook)) ∈ lines
  stringify : ∀ hook, c.stringify = some hook → "  char *Tmp = " ++ hook.name ++ "(get());" ∈ lines
  tagAccessor : ∀ accessor, c.role = .taggedRoot accessor →
    "  return " ++ accessor.name ++ "(get()) == T::type;" ∈ lines
  view : c.isTaggedView = true → "  static const auto type = " ++ c.key ++ ";" ∈ lines

theorem call_mem_definition {m : Member} {code : Code} (h : memberDefinition s c m = .ok code) :
    ∃ args, "  auto res = " ++ m.function.name ++ "(" ++ ", ".intercalate args ++ ");" ∈ code := by
  obtain ⟨signature, body, _, hbody, rfl⟩ := memberDefinition_eq_ok_iff.1 h
  refine ⟨body.args, ?_⟩
  rw [← hbody.callLine, definitionLines, Body.lines_eq]
  simp

/-- The parts of a class that no function has a say in stand in its implementation. -/
theorem part_infix_implementation {implementation part : Code}
    (h : classImplementation s c = .ok implementation)
    (hpart : ∀ constructors operators methods,
      part ∈ implementationParts s c constructors operators methods) :
    part <:+: implementation := by
  obtain ⟨constructors, operators, methods, _, rfl⟩ := classImplementation_eq_ok_iff.1 h
  exact List.infix_cons (Code.infix_sections (hpart constructors operators methods))

theorem namesWritten {lines : Code} (h : header s t = .ok lines) (hc : c ∈ t.toList) :
    NamesWritten s t c lines := by
  obtain ⟨declaration, implementation, hdeclaration, hdeclared, himplementation, himplemented⟩ :=
    classTexts_infix_header h hc
  refine ⟨fun m hm => ?_, fun m hm => ?_, fun hextensions hook hhook => ?_, fun hook hhook => ?_,
    fun accessor hrole => ?_, fun hview => ?_⟩
  · obtain ⟨code, hcode, hpart⟩ := definition_infix_header h hc hm
    obtain ⟨args, hcall⟩ := call_mem_definition hcode
    exact ⟨args, hpart.subset hcall⟩
  · exact ⟨declaration, hdeclared, declaredAs_of_mem_methodMembers hdeclaration hm⟩
  · exact himplemented.subset (equalityCall_mem_implementation himplementation hextensions hhook)
  · have hpart : textConversion s c <:+: implementation :=
      part_infix_implementation himplementation fun _ _ _ => by simp [implementationParts]
    exact himplemented.subset (hpart.subset (by simp [textConversion, hhook]))
  · have hpart : downcasts s c <:+: implementation :=
      part_infix_implementation himplementation fun _ _ _ => by simp [implementationParts]
    exact himplemented.subset (hpart.subset (by simp [downcasts, hrole]))
  · obtain ⟨constructors, methods, _, _, rfl⟩ := classDeclaration_eq_ok_iff.1 hdeclaration
    have htag : "  static const auto type = " ++ c.key ++ ";" ∈ viewLines s c := by
      simp [viewLines, ObjectClass.role, hview]
    exact hdeclared.subset
      (List.mem_flatten.2 ⟨_, by simp [declarationParts], htag⟩)

/-! ## Empty names -/

/-- **Where an accepted table may hold an empty name:** in no place that is checked, and behind an
    equality hook only with a method group without a name. A key is empty only as the name of a
    view, which has a root like any other. The functions behind the hooks that turn an object into
    text and that read its tag may be exchanged for any others. All of these names are written into
    the output. -/
theorem empty_names_of_accepted (h : ClassTable.ofClasses list = .ok t) :
    (∀ c ∈ t.toList,
      (∀ place : NamePlace, place.isChecked = true → "" ∉ c.namesAt place) ∧
      ("" ∈ c.namesAt .equality → "" ∈ c.namesAt .group) ∧
      (c.key = "" ↔ "" ∈ c.namesAt .view) ∧
      (c.key = "" → c.isTaggedView = true ∧
        ∃ root ∈ t.toList, root.key = c.name ∧ root.typeTagAccessor ≠ none)) ∧
    (∀ change, ∃ t', ClassTable.ofClasses (list.map (·.changeHooks change)) = .ok t' ∧
      t'.toList = t.toList.map (·.changeHooks change)) ∧
    ∀ s text, generate s t = .ok text → ∃ lines, header s t = .ok lines ∧ lines.render = text ∧
      ∀ c ∈ t.toList, NamesWritten s t c lines := by
  have hperm : t.toList.Perm list := (holds_of_ofClasses h).perm
  have hfit : FitTogether list := succeeds_ofClasses_iff.1 ⟨t, h⟩
  refine ⟨fun c hc => ?_, ofClasses_changeHooks h, fun s text htext => ?_⟩
  · have hname : c.name ≠ "" := hfit.named c (hperm.mem_iff.1 hc)
    have hfits : c.FitsAmong t.toList :=
      (fitsAmong_perm hperm).2 (hfit.fits c (hperm.mem_iff.1 hc))
    exact ⟨fun place => empty_notMem_of_isChecked hfits hname, empty_mem_groups hfits,
      key_eq_empty_iff hname, exists_root_of_key_eq_empty hfits hname⟩
  · obtain ⟨lines, hlines, hrender⟩ := generate_eq_ok_iff.1 htext
    exact ⟨lines, hlines, hrender, fun c hc => namesWritten hlines hc⟩

theorem empty_names_of_accepted_scheduleNode :
    ∃ t t' text, ClassTable.ofClasses [scheduleNodeBand, scheduleNode] = .ok t ∧
      generate .standard t = .ok text ∧ scheduleNode ∈ t.toList ∧
      (∀ place : NamePlace, place.isChecked = true → "" ∉ scheduleNode.namesAt place) ∧
      ClassTable.ofClasses
        [scheduleNodeBand, { scheduleNode with typeTagAccessor := some (.named "") }] = .ok t' ∧
      ∃ lines : Code, lines.render = text ∧ NamesWritten .standard t scheduleNode lines := by
  obtain ⟨t, text, ht, htext⟩ : ∃ t text,
      ClassTable.ofClasses [scheduleNodeBand, scheduleNode] = .ok t ∧
        generate .standard t = .ok text :=
    ⟨_, _, rfl, rfl⟩
  have hmem : scheduleNode ∈ t.toList :=
    (holds_of_ofClasses ht).perm.mem_iff.2 (List.mem_cons_of_mem _ (List.mem_singleton_self _))
  obtain ⟨hplaces, hchange, hwritten⟩ := empty_names_of_accepted ht
  obtain ⟨t', ht', _⟩ := hchange fun _ => .named ""
  obtain ⟨lines, _, hrender, hnames⟩ := hwritten .standard text htext
  exact ⟨t, t', text, ht, htext, hmem, (hplaces _ hmem).1, ht', lines, hrender, hnames _ hmem⟩

/-- Sets whose hooks have no names; the method group for equality has none either. -/
def namelessSet : ObjectClass where
  name := "isl_set"
  typeTagAccessor := some (.named "")
  equality := some (.named "")
  stringify := some (.named "")
  methods := .ofList [("", [setEquality])]

/-- A view of them without a name. -/
def namelessView : ObjectClass :=
  .viewOf "isl_set" ""

/-- A table is accepted without these names, and the output calls functions without a name. -/
theorem not_named_namelessSet :
    ∃ t lines, ClassTable.ofClasses [namelessSet, namelessView] = .ok t ∧
      header .standard t = .ok lines ∧ generate .standard t = .ok lines.render ∧
      t.toList = [namelessView, namelessSet] ∧ namelessView.key = "" ∧
      (∀ place ∈ [NamePlace.group, .equality, .stringify, .tagAccessor],
        "" ∈ namelessSet.namesAt place) ∧
      ∀ line ∈ ["class ;", "  static const auto type = ;",
          "  inline bool (const isl::set &set2) const;", "  return C1.(C2);",
          "  char *Tmp = (get());", "  return (get()) == T::type;"],
        line ∈ lines := by
  obtain ⟨t, lines, ht, hlines, hlist, hall⟩ :
      ∃ t lines, ClassTable.ofClasses [namelessSet, namelessView] = .ok t ∧
        header .standard t = .ok lines ∧ t.toList = [namelessView, namelessSet] ∧
        ∀ line ∈ ["class ;", "  static const auto type = ;",
            "  inline bool (const isl::set &set2) const;", "  return C1.(C2);",
            "  char *Tmp = (get());", "  return (get()) == T::type;"],
          line ∈ lines :=
    ⟨_, _, rfl, rfl, rfl, by decide +kernel⟩
  exact ⟨t, lines, ht, hlines, generate_eq_ok_iff.2 ⟨lines, hlines, rfl⟩, hlist, rfl,
    by decide, hall⟩

end HandleWrap
