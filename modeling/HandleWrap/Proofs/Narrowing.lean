import HandleWrap.Proofs.Prefixes
import HandleWrap.Proofs.TableAcceptance
import HandleWrap.Proofs.Unchecked

set_option autoImplicit false

/-! # Results that are narrowed to a view

A view returns itself where its C type is returned. What is compared are the C++ spellings, so the
result is narrowed for every type that is spelled like the C type of the view. `SpelledLike` lists
these types: besides the C type itself there are types that are no objects at all, such as a bare
truth value where the classes wrap an object type `boolean`. `narrowed_iff_spelledLike` says that
the list is complete. -/

namespace HandleWrap

variable {s : Settings} {c : ObjectClass} {f : CFunction} {type : CType} {object : String}

/-! ## Types with the spelling of an object type -/

/-- `SpelledLike s object type`: in C++ the type is spelled like the object type `object`, which
    begins with the C prefix. -/
inductive SpelledLike (s : Settings) (object : String) : CType → Prop where
  | same : SpelledLike s object (.handle object)
  /-- An object type without the prefix that is cut to the same rest. -/
  | foreign {name : String} (hname : ¬ s.Prefixed name)
      (hrest : s.stripped name = s.stripped object) : SpelledLike s object (.handle name)
  | context (hs : s.extensions = true) (hobject : object = s.cName "ctx") :
      SpelledLike s object .context
  | bool (hs : s.exceptions = false) (hobject : object = s.cName "boolean") :
      SpelledLike s object .bool
  | stat (hs : s.exceptions = false) (hobject : object = s.cName "stat") :
      SpelledLike s object .stat
  /-- An enumeration of the same C name. -/
  | enumeration (hs : s.extensions = true) : SpelledLike s object (.enumeration object)
  /-- A type whose spelling in C has a colon, which no type of C has. -/
  | withScope {type : CType} {spelling : String} (hspelling : type.inC s = .ok spelling)
      (hcolon : ':' ∈ spelling.toList) (hcpp : type.cpp s = .ok (s.handleType object)) :
      SpelledLike s object type
  /-- A string, if the classes stand in the namespace of the standard library. -/
  | string (hs : s.targetNamespace = "std") (hobject : object = s.cName "string") :
      SpelledLike s object .string
  /-- A callback, if the classes stand in the namespace of the standard library. -/
  | callback {signature : Callback} {rest : String} (hs : s.targetNamespace = "std")
      (hobject : object = s.cName ("function<" ++ rest))
      (hcpp : signature.cpp s = .ok ("std::function<" ++ rest)) :
      SpelledLike s object (.callback signature)

/-- The standard library's namespace is in front of what has it. -/
theorem eq_std_of_handleType {name : String} (hs : Text.isIdentifier s.targetNamespace = true)
    (hobject : s.Prefixed object) (h : "std::" ++ name = s.handleType object) :
    s.targetNamespace = "std" ∧ object = s.cName name := by
  obtain ⟨base, rfl⟩ := hobject
  rw [handleType_cName] at h
  have hsplit : ['s', 't', 'd'] ++ ':' :: ':' :: name.toList = (s.qualified base).toList := by
    rw [← h, String.toList_append]
    rfl
  obtain ⟨hscope, hname⟩ := scope_inj hs (by decide) hsplit
  have hbase : name = base := String.toList_injective hname
  exact ⟨String.toList_injective hscope.symm, by rw [hbase]⟩

theorem SpelledLike.cpp (h : SpelledLike s object type) (hobject : s.Prefixed object) :
    type.cpp s = .ok (s.handleType object) := by
  cases h with
  | same => rfl
  | foreign _ hrest =>
      rw [CType.cpp, Settings.handleType, hrest]
      rfl
  | context hs hname => rw [CType.cpp, if_pos hs, hname, handleType_cName]
  | bool hs hname =>
      rw [CType.cpp, Settings.boolType, if_neg (by simp [hs]), hname, handleType_cName]
  | stat hs hname =>
      rw [CType.cpp, Settings.statType, if_neg (by simp [hs]), hname, handleType_cName]
  | enumeration hs =>
      obtain ⟨base, rfl⟩ := hobject
      rw [CType.cpp, if_pos hs, enumType_cName, handleType_cName]
  | withScope _ _ hcpp => exact hcpp
  | string hs hname =>
      rw [CType.cpp, hname, handleType_cName, Settings.qualified, hs]
      rfl
  | callback hs hname hcpp =>
      rw [CType.cpp, hcpp, hname, handleType_cName, Settings.qualified, hs, ← String.append_assoc]
      rfl

/-- What a type with the spelling of an object type is. -/
theorem spelledLike_of_cpp (hs : Text.isIdentifier s.targetNamespace = true)
    (hobject : s.Prefixed object) (h : type.cpp s = .ok (s.handleType object)) :
    SpelledLike s object type := by
  have hbase : ∀ {name}, s.qualified name = s.handleType object → object = s.cName name := by
    intro name hname
    obtain ⟨base, rfl⟩ := hobject
    rw [handleType_cName, qualified_inj] at hname
    rw [hname]
  have hcolon := colon_mem_qualified s (s.stripped object)
  cases type with
  | handle name =>
      have hrest : s.stripped name = s.stripped object := qualified_inj.1 (Except.ok.inj h)
      by_cases hname : s.Prefixed name
      · obtain rfl := hname.eq_of_stripped_eq hobject hrest
        exact .same
      · exact .foreign hname hrest
  | context =>
      have htype := Except.ok.inj h
      split at htype
      · next hext => exact .context hext (hbase htype)
      · exact .withScope rfl (htype ▸ hcolon) h
  | bool =>
      have htype : s.boolType = s.handleType object := Except.ok.inj h
      rw [Settings.boolType] at htype
      split at htype
      · exact absurd htype (ne_handleType (by decide))
      · next hexc => exact .bool (Bool.eq_false_iff.2 hexc) (hbase htype)
  | stat =>
      have htype : s.statType = s.handleType object := Except.ok.inj h
      rw [Settings.statType] at htype
      split at htype
      · exact absurd htype (ne_handleType (by decide))
      · next hexc => exact .stat (Bool.eq_false_iff.2 hexc) (hbase htype)
  | enumeration name =>
      have htype := Except.ok.inj h
      split at htype
      · next hext =>
          rcases enumType_eq_qualified hs htype with hname | hname
          · obtain rfl : name = object := hname.trans (hbase rfl).symm
            exact .enumeration hext
          · exact .withScope rfl hname h
      · exact .withScope rfl (htype ▸ hcolon) h
  | integer name =>
      have htype : name = s.handleType object := Except.ok.inj h
      exact .withScope rfl (htype ▸ hcolon) h
  | string =>
      have htype : "std::" ++ "string" = s.handleType object := Except.ok.inj h
      obtain ⟨hstd, hname⟩ := eq_std_of_handleType hs hobject htype
      exact .string hstd hname
  | callback signature =>
      obtain ⟨result, types, hresult, htypes, htext⟩ := Callback.cpp_eq_ok_iff.1 h
      have htype : "std::" ++ ("function<" ++ (result ++ "(" ++ ", ".intercalate types ++ ")>")) =
          s.handleType object := by
        rw [htext]
        simp only [← String.append_assoc]
        rfl
      obtain ⟨hstd, hname⟩ := eq_std_of_handleType hs hobject htype
      refine .callback hstd hname ?_
      have hcpp : signature.cpp s = .ok (s.handleType object) := h
      rw [hcpp, ← htype, ← String.append_assoc]
      rfl
  | userData => cases h
  | other spelling => cases h

/-- **Which types have the spelling of an object type.** -/
theorem cpp_eq_handleType_iff (hs : Text.isIdentifier s.targetNamespace = true)
    (hobject : s.Prefixed object) :
    type.cpp s = .ok (s.handleType object) ↔ SpelledLike s object type :=
  ⟨spelledLike_of_cpp hs hobject, fun h => h.cpp hobject⟩

/-- Among the object types with the prefix no two are spelled alike. -/
theorem spelledLike_handle_iff {name : String} (hs : Text.isIdentifier s.targetNamespace = true)
    (hobject : s.Prefixed object) (hname : s.Prefixed name) :
    SpelledLike s object (.handle name) ↔ name = object := by
  rw [← cpp_eq_handleType_iff hs hobject]
  constructor
  · intro h
    exact hname.eq_of_stripped_eq hobject (qualified_inj.1 (Except.ok.inj h))
  · rintro rfl
    rfl

/-! ## Narrowed results -/

/-- A view is told apart from its C type in C++ as well. -/
theorem handleType_key_ne (hview : c.isTaggedView = true) (hname : s.Prefixed c.name)
    (hkey : s.Prefixed c.key) : s.handleType c.key ≠ s.handleType c.name := by
  obtain ⟨sub, hsub, hne⟩ := isTaggedView_eq_true_iff.1 hview
  intro h
  have hkeys : c.key = c.name := hkey.eq_of_stripped_eq hname (qualified_inj.1 h)
  rw [ObjectClass.key, hsub] at hkeys
  exact hne hkeys

/-- **When a result is narrowed:** with settings that can be used and prefixed names, a function
    with a C++ result type returns the view exactly if the class is one and the result is spelled
    like the C type of the class. Of the object types with the prefix that is the C type alone. -/
theorem narrowed_iff_spelledLike (hs : s.problem? = none)
    (hview : c.isTaggedView = true → s.Prefixed c.name ∧ s.Prefixed c.key) {spelling : String}
    (hspelling : f.returnType.cpp s = .ok spelling) :
    ∃ type narrowed, s.returnType c f = .ok (type, narrowed) ∧
      (narrowed = true ↔ c.isTaggedView = true ∧ SpelledLike s c.name f.returnType) ∧
      (narrowed = true → type = s.handleType c.key ∧ type ≠ spelling) ∧
      (narrowed = false → type = spelling) ∧
      ∀ object, f.returnType = .handle object → s.Prefixed object →
        (narrowed = true ↔ c.isTaggedView = true ∧ object = c.name) := by
  have htarget := (identifiers_of_problem? hs).1
  have hspelled : c.isTaggedView = true → (spelling = s.handleType c.name ↔
      SpelledLike s c.name f.returnType) := fun hc => by
    rw [← cpp_eq_handleType_iff htarget (hview hc).1, hspelling, Except.ok.injEq]
  have hprefixed : ∀ object, f.returnType = .handle object → s.Prefixed object →
      (c.isTaggedView = true ∧ SpelledLike s c.name f.returnType ↔
        c.isTaggedView = true ∧ object = c.name) := fun object hobject hprefix => by
    rw [hobject]
    exact and_congr_right fun hc => spelledLike_handle_iff htarget (hview hc).1 hprefix
  rw [returnType_of_cpp hspelling]
  by_cases hnarrowed : c.isTaggedView = true ∧ spelling = s.handleType c.name
  · obtain ⟨hc, hname⟩ := hnarrowed
    have hlike : c.isTaggedView = true ∧ SpelledLike s c.name f.returnType :=
      ⟨hc, (hspelled hc).1 hname⟩
    have hne : s.handleType c.key ≠ spelling :=
      hname ▸ handleType_key_ne hc (hview hc).1 (hview hc).2
    rw [if_pos ⟨hc, hname⟩]
    refine ⟨_, _, rfl, iff_of_true rfl hlike, fun _ => ⟨rfl, hne⟩, nofun, ?_⟩
    intro object hobject hprefix
    exact iff_of_true rfl ((hprefixed object hobject hprefix).1 hlike)
  · have hlike : ¬ (c.isTaggedView = true ∧ SpelledLike s c.name f.returnType) :=
      fun ⟨hc, hlike⟩ => hnarrowed ⟨hc, (hspelled hc).2 hlike⟩
    rw [if_neg hnarrowed]
    refine ⟨_, _, rfl, iff_of_false nofun hlike, nofun, fun _ => rfl, ?_⟩
    intro object hobject hprefix
    exact iff_of_false nofun (mt (hprefixed object hobject hprefix).2 hlike)

/-- The function that splits a band, which returns a schedule node. -/
def splitBand : CFunction where
  name := "isl_schedule_node_band_split"
  returnType := .handle "isl_schedule_node"
  givesResult := true
  params := [⟨"node", .handle "isl_schedule_node", .take⟩, ⟨"pos", .int, .keep⟩]

theorem narrowed_iff_spelledLike_splitBand :
    Settings.standard.problem? = none ∧ scheduleNodeBand.isTaggedView = true ∧
      Settings.standard.Prefixed scheduleNodeBand.name ∧
      Settings.standard.Prefixed scheduleNodeBand.key ∧
      splitBand.returnType.cpp .standard = .ok "isl::schedule_node" ∧
      ∃ type narrowed, Settings.standard.returnType scheduleNodeBand splitBand =
          .ok (type, narrowed) ∧
        (narrowed = true ↔ scheduleNodeBand.isTaggedView = true ∧
          SpelledLike .standard scheduleNodeBand.name splitBand.returnType) ∧
        (narrowed = true → type = Settings.standard.handleType scheduleNodeBand.key ∧
          type ≠ "isl::schedule_node") ∧
        (narrowed = false → type = "isl::schedule_node") ∧
        ∀ object, splitBand.returnType = .handle object → Settings.standard.Prefixed object →
          (narrowed = true ↔ scheduleNodeBand.isTaggedView = true ∧
            object = scheduleNodeBand.name) := by
  have hname : Settings.standard.Prefixed scheduleNodeBand.name := ⟨"schedule_node", rfl⟩
  have hkey : Settings.standard.Prefixed scheduleNodeBand.key := ⟨"schedule_node_band", rfl⟩
  exact ⟨by decide, rfl, hname, hkey, rfl,
    narrowed_iff_spelledLike (by decide) (fun _ => ⟨hname, hkey⟩) rfl⟩

/-- The root of the formulas, which are told apart by their connective. -/
def formula : ObjectClass where
  name := "isl_boolean"
  typeTagAccessor := some (.named "isl_boolean_get_type")

/-- The formulas that are conjunctions. -/
def conjunction : ObjectClass :=
  .viewOf formula.name "isl_boolean_and"

/-- The method that tells whether a conjunction is valid. -/
def isValid : Member where
  name := "is_valid"
  function := {
    name := "isl_boolean_and_is_valid"
    returnType := .bool
    params := [⟨"formula", .handle "isl_boolean", .keep⟩] }
  kind := .instanceMethod

/-- A bare truth value is narrowed to a view whose C type is spelled like it. -/
theorem narrowed_truthValue_isValid :
    Settings.quiet.problem? = none ∧
      ∃ t, ClassTable.ofClasses [formula, conjunction] = .ok t ∧
        conjunction ∈ t.toList ∧ conjunction.isTaggedView = true ∧
        Settings.quiet.Prefixed conjunction.name ∧ Settings.quiet.Prefixed conjunction.key ∧
        isValid.function.returnType ≠ .handle conjunction.name ∧
        Settings.quiet.returnType conjunction isValid.function = .ok ("isl::boolean_and", true) ∧
        ∃ code, memberDefinition .quiet conjunction isValid = .ok code ∧
          "isl::boolean_and boolean_and::is_valid() const" ∈ code ∧
          "  return manage(res);" ∈ code := by
  obtain ⟨t, ht⟩ : ∃ t, ClassTable.ofClasses [formula, conjunction] = .ok t := ⟨_, rfl⟩
  have hmem : conjunction ∈ t.toList := (holds_of_ofClasses ht).perm.mem_iff.2 (by simp)
  exact ⟨by decide, t, ht, hmem, rfl, ⟨"boolean", rfl⟩, ⟨"boolean_and", rfl⟩, nofun, rfl,
    _, rfl, by decide +kernel, by decide +kernel⟩

end HandleWrap
