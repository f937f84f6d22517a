import HandleWrap.Proofs.TidyText

set_option autoImplicit false

/-! # Descriptions without brackets

Names and spellings are put into the output as they are, so the brackets of the output are known
only if none stands in a name. Nothing else is asked of names then, so a description without
brackets is tidy, though not in the strict sense (`ObjectClass.Unbracketed.tidy`,
`Settings.Unbracketed.tidy`). -/

namespace HandleWrap

/-! ## Descriptions -/

/-- A type in whose names and spellings no bracket stands. -/
inductive CType.Unbracketed : CType → Prop where
  | handle {name : String} (h : BracketFree name) : Unbracketed (.handle name)
  | context : Unbracketed .context
  | bool : Unbracketed .bool
  | stat : Unbracketed .stat
  | enumeration {name : String} (h : BracketFree name) : Unbracketed (.enumeration name)
  | integer {name : String} (h : BracketFree name) : Unbracketed (.integer name)
  | string : Unbracketed .string
  | callback {signature : Callback} (hresult : signature.result.Unbracketed)
      (hargs : ∀ arg ∈ signature.args, arg.type.Unbracketed) : Unbracketed (.callback signature)
  | userData : Unbracketed .userData
  | other {spelling : String} (h : BracketFree spelling) : Unbracketed (.other spelling)

structure Param.Unbracketed (p : Param) : Prop where
  name : BracketFree p.name
  type : p.type.Unbracketed

structure CFunction.Unbracketed (f : CFunction) : Prop where
  name : BracketFree f.name
  returnType : f.returnType.Unbracketed
  params : ∀ p ∈ f.params, p.Unbracketed

/-- A class in whose names no bracket stands, down to those of its parameters. -/
structure ObjectClass.Unbracketed (c : ObjectClass) : Prop where
  name : BracketFree c.name
  subclassName : ∀ sub ∈ c.subclassName, BracketFree sub
  typeTagAccessor : ∀ f ∈ c.typeTagAccessor, f.Unbracketed
  equality : ∀ f ∈ c.equality, f.Unbracketed
  stringify : ∀ f ∈ c.stringify, f.Unbracketed
  constructors : ∀ f ∈ c.constructors, f.Unbracketed
  methods : ∀ group ∈ c.methods.entries, BracketFree group.1 ∧ ∀ f ∈ group.2, f.Unbracketed

/-- Settings in whose texts no bracket stands. -/
structure Settings.Unbracketed (s : Settings) : Prop where
  targetNamespace : BracketFree s.targetNamespace
  quietNamespace : BracketFree s.quietNamespace
  cPrefix : BracketFree s.cPrefix
  renames : ∀ rename ∈ s.renames.entries, BracketFree rename.2
  headerGuard : ∀ guard ∈ s.headerGuard, BracketFree guard
  includes : ∀ header ∈ s.includes, BracketFree header

variable {s : Settings} {c : ObjectClass} {f : CFunction} {name : String}

/-! ## Tidiness -/

theorem BracketFree.tidyWord (h : BracketFree name) : TidyWord False name :=
  ⟨h, False.elim⟩

theorem BracketFree.tidySpelling (h : BracketFree name) : TidySpelling False name :=
  ⟨h, False.elim⟩

theorem CType.Unbracketed.tidy {type : CType} (h : type.Unbracketed) : type.Tidy False := by
  induction h with
  | handle h => exact .handle h.tidyWord
  | context => exact .context
  | bool => exact .bool
  | stat => exact .stat
  | enumeration h => exact .enumeration h.tidySpelling
  | integer h => exact .integer h.tidySpelling
  | string => exact .string
  | callback _ _ hresult hargs => exact .callback hresult hargs
  | userData => exact .userData
  | other _ => exact .other _

theorem CFunction.Unbracketed.tidy (h : f.Unbracketed) : f.Tidy False where
  name := h.name.tidyWord
  returnType := h.returnType.tidy
  params p hp := ⟨(h.params p hp).name.tidyWord, (h.params p hp).type.tidy⟩

theorem ObjectClass.Unbracketed.tidy (h : c.Unbracketed) : c.Tidy False where
  name := h.name.tidyWord
  subclassName sub hsub := (h.subclassName sub hsub).tidyWord
  typeTagAccessor f hf := (h.typeTagAccessor f hf).tidy
  equality f hf := (h.equality f hf).tidy
  stringify f hf := (h.stringify f hf).tidy
  constructors f hf := (h.constructors f hf).tidy
  methods group hgroup :=
    ⟨(h.methods group hgroup).1.tidyWord, fun f hf => ((h.methods group hgroup).2 f hf).tidy⟩

theorem Settings.Unbracketed.tidy (h : s.Unbracketed) : s.Tidy False where
  targetNamespace := h.targetNamespace.tidyWord
  begins := False.elim
  quietNamespace := h.quietNamespace.tidyWord
  cPrefix := h.cPrefix.tidyWord
  renames rename hrename := (h.renames rename hrename).tidyWord
  exceptions := False.elim

end HandleWrap
