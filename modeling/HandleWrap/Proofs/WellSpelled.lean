import HandleWrap.Proofs.TidyText

set_option autoImplicit false

/-! # Well-spelled descriptions

A description is well spelled if every name in it is an identifier and every spelling of a plain
type is made of identifiers. Such names are words, so the description is tidy in the strict sense
(`ObjectClass.WellSpelled.tidy`), and so are settings that are well spelled and do not throw
(`Settings.WellSpelled.tidy`). -/

namespace HandleWrap

/-! ## Descriptions -/

/-- A type whose names are identifiers. A type of no known shape may have any spelling: it stands in
    no output. -/
inductive CType.WellSpelled : CType → Prop where
  | handle {name : String} (h : Text.isIdentifier name = true) : WellSpelled (.handle name)
  | context : WellSpelled .context
  | bool : WellSpelled .bool
  | stat : WellSpelled .stat
  | enumeration {name : String} (h : IsSpelling name) : WellSpelled (.enumeration name)
  | integer {name : String} (h : IsSpelling name) : WellSpelled (.integer name)
  | string : WellSpelled .string
  | callback {signature : Callback} (hresult : signature.result.WellSpelled)
      (hargs : ∀ arg ∈ signature.args, arg.type.WellSpelled) : WellSpelled (.callback signature)
  | userData : WellSpelled .userData
  | other (spelling : String) : WellSpelled (.other spelling)

structure Param.WellSpelled (p : Param) : Prop where
  name : Text.isIdentifier p.name = true
  type : p.type.WellSpelled

structure CFunction.WellSpelled (f : CFunction) : Prop where
  name : Text.isIdentifier f.name = true
  returnType : f.returnType.WellSpelled
  params : ∀ p ∈ f.params, p.WellSpelled

/-- A class whose names are identifiers, down to those of its parameters. -/
structure ObjectClass.WellSpelled (c : ObjectClass) : Prop where
  name : Text.isIdentifier c.name = true
  subclassName : ∀ sub ∈ c.subclassName, Text.isIdentifier sub = true
  typeTagAccessor : ∀ f ∈ c.typeTagAccessor, f.WellSpelled
  equality : ∀ f ∈ c.equality, f.WellSpelled
  stringify : ∀ f ∈ c.stringify, f.WellSpelled
  constructors : ∀ f ∈ c.constructors, f.WellSpelled
  methods : ∀ group ∈ c.methods.entries,
    Text.isIdentifier group.1 = true ∧ ∀ f ∈ group.2, f.WellSpelled

/-- Settings that can be used, with a C prefix for identifiers and one line for each directive. -/
structure Settings.WellSpelled (s : Settings) : Prop where
  usable : s.problem? = none
  cPrefix : IsWord s.cPrefix
  headerGuard : ∀ guard ∈ s.headerGuard, OneLine guard
  includes : ∀ header ∈ s.includes, OneLine header

variable {s : Settings} {c : ObjectClass} {f : CFunction} {p : Param} {name : String}

/-! ## Tidiness -/

/-- In settings that can be used the namespaces and the targets of renames are identifiers. -/
theorem identifiers_of_problem? (h : s.problem? = none) :
    Text.isIdentifier s.targetNamespace = true ∧ Text.isIdentifier s.quietNamespace = true ∧
      ∀ rename ∈ s.renames.entries, Text.isIdentifier rename.2 = true := by
  unfold Settings.problem? at h
  split at h
  · cases h
  · next htarget =>
      split at h
      · cases h
      · next hquiet =>
          split at h
          · cases h
          · rw [Option.map_eq_none_iff, List.find?_eq_none] at h
            simp only [Bool.not_eq_true', Bool.not_eq_false] at htarget hquiet h
            exact ⟨htarget, hquiet, h⟩

theorem tidyWord_of_isIdentifier (h : Text.isIdentifier name = true) : TidyWord True name :=
  (isWord_of_isIdentifier h).tidyWord

theorem IsSpelling.tidySpelling (h : IsSpelling name) : TidySpelling True name := by
  refine ⟨?_, fun _ => h⟩
  obtain ⟨words, _, hwords, rfl⟩ := h
  have hempty : BracketFree "" := bracketFree_literal (by decide)
  have hblank : BracketFree " " := bracketFree_literal (by decide)
  refine intercalate_of_append hempty BracketFree.append hblank fun word hword => ?_
  exact (tidyWord_of_isIdentifier (hwords word hword)).1

theorem CType.WellSpelled.tidy {type : CType} (h : type.WellSpelled) : type.Tidy True := by
  induction h with
  | handle h => exact .handle (tidyWord_of_isIdentifier h)
  | context => exact .context
  | bool => exact .bool
  | stat => exact .stat
  | enumeration h => exact .enumeration h.tidySpelling
  | integer h => exact .integer h.tidySpelling
  | string => exact .string
  | callback _ _ hresult hargs => exact .callback hresult hargs
  | userData => exact .userData
  | other spelling => exact .other spelling

theorem CFunction.WellSpelled.tidy (h : f.WellSpelled) : f.Tidy True where
  name := tidyWord_of_isIdentifier h.name
  returnType := h.returnType.tidy
  params p hp := ⟨tidyWord_of_isIdentifier (h.params p hp).name, (h.params p hp).type.tidy⟩

theorem ObjectClass.WellSpelled.tidy (h : c.WellSpelled) : c.Tidy True where
  name := tidyWord_of_isIdentifier h.name
  subclassName sub hsub := tidyWord_of_isIdentifier (h.subclassName sub hsub)
  typeTagAccessor f hf := (h.typeTagAccessor f hf).tidy
  equality f hf := (h.equality f hf).tidy
  stringify f hf := (h.stringify f hf).tidy
  constructors f hf := (h.constructors f hf).tidy
  methods group hgroup :=
    ⟨tidyWord_of_isIdentifier (h.methods group hgroup).1,
      fun f hf => ((h.methods group hgroup).2 f hf).tidy⟩

theorem Settings.WellSpelled.tidy (h : s.WellSpelled) (hexc : s.exceptions = false) :
    s.Tidy True := by
  obtain ⟨htarget, hquiet, hrenames⟩ := identifiers_of_problem? h.usable
  exact {
    targetNamespace := tidyWord_of_isIdentifier htarget
    begins := fun _ => begins_of_isIdentifier htarget
    quietNamespace := tidyWord_of_isIdentifier hquiet
    cPrefix := h.cPrefix.tidyWord
    renames := fun rename hrename => tidyWord_of_isIdentifier (hrenames rename hrename)
    exceptions := fun _ => hexc }

end HandleWrap
