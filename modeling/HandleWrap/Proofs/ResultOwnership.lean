import HandleWrap.Proofs.Member

set_option autoImplicit false

/-! # Who owns an object that is returned

A C function says with a mark whether its caller receives ownership of the result. The mark decides
whether a string is freed, and nothing else reads it (`memberDefinition_withResultMark`): where an
object is returned, constructors, plain and narrowed results all adopt the raw handle (`Adoption`),
so a definition honours the mark exactly if the caller does receive ownership (`result_adopted`). -/

namespace HandleWrap

variable {s : Settings} {c : ObjectClass} {m : Member}

/-! ## The mark -/

/-- The member of the same function with that mark on the result. -/
def Member.withResultMark (m : Member) (gives : Bool) : Member :=
  { m with function := { m.function with givesResult := gives } }

/-- Only the result of a method that returns a string depends on the mark. -/
theorem conversion_withResultMark (h : m.kind = .constructor ∨ m.function.returnType ≠ .string)
    (gives : Bool) : (m.withResultMark gives).conversion s c = m.conversion s c := by
  by_cases hkind : m.kind = .constructor
  · unfold Member.conversion Member.withResultMark
    simp only [hkind]
  -- the mark stands in the one branch for strings
  have hlines : ∀ type narrowed, resultLines s (m.withResultMark gives).function type narrowed =
      resultLines s m.function type narrowed := fun type narrowed => by
    unfold resultLines Member.withResultMark
    cases htype : m.function.returnType with
    | string => exact absurd htype (h.resolve_left hkind)
    | _ => rfl
  rw [conversion_of_method hkind, conversion_of_method (m := m.withResultMark gives) hkind]
  simp only [hlines]
  rfl

/-- **The mark is read for strings only:** with and without it, all other members have the same
    definition or fail alike. -/
theorem memberDefinition_withResultMark
    (h : m.kind = .constructor ∨ m.function.returnType ≠ .string) (gives : Bool) :
    memberDefinition s c (m.withResultMark gives) = memberDefinition s c m := by
  have hbody : memberBody s c (m.withResultMark gives) = memberBody s c m := by
    rw [memberBody_eq, memberBody_eq, conversion_withResultMark h]
    rfl
  unfold memberDefinition
  rw [hbody]
  rfl

/-! ## Adopted results -/

/-- `Adoption s c m lines`: with `lines` the member makes an object that owns the raw result. -/
inductive Adoption (s : Settings) (c : ObjectClass) (m : Member) : Code → Prop where
  /-- A constructor fills the handle of the new object. -/
  | constructed (hkind : m.kind = .constructor) : Adoption s c m ["  ptr = res;"]
  /-- A method returns an object of the class that goes with the C type. -/
  | returned {object : String} (hkind : m.kind ≠ .constructor)
      (htype : m.function.returnType = .handle object)
      (hplain : ¬ (c.isTaggedView = true ∧ s.handleType object = s.handleType c.name)) :
      Adoption s c m ["  return manage(res);"]
  /-- A view that returns its base narrows it to itself. -/
  | narrowed {object : String} (hkind : m.kind ≠ .constructor)
      (htype : m.function.returnType = .handle object)
      (hview : c.isTaggedView = true ∧ s.handleType object = s.handleType c.name) :
      Adoption s c m ["  return manage(res).as<" ++ s.handleType c.key ++ ">();"]

/-- The C++ type of an object that is returned, and whether it is narrowed to it. -/
theorem returnType_of_handle {f : CFunction} {object : String}
    (htype : f.returnType = .handle object) :
    s.returnType c f = .ok (if c.isTaggedView = true ∧ s.handleType object = s.handleType c.name
      then (s.handleType c.key, true) else (s.handleType object, false)) := by
  refine returnType_of_cpp ?_
  rw [htype]
  rfl

/-- An object that is returned is adopted. -/
theorem adoption_of_conversion (hhandle : m.function.returnType.isHandle = true) {lines : Code}
    (h : m.conversion s c = .ok lines) : Adoption s c m lines := by
  obtain ⟨hkind, rfl⟩ | ⟨hkind, result, hresult, rfl⟩ := conversion_eq_ok_iff.1 h
  · exact .constructed hkind
  obtain ⟨object, htype⟩ : ∃ object, m.function.returnType = .handle object := by
    cases htype : m.function.returnType with
    | handle object => exact ⟨object, rfl⟩
    | _ => rw [htype] at hhandle; cases hhandle
  have hlines : ∀ type narrowed, resultLines s m.function type narrowed =
      if narrowed then ["  return manage(res).as<" ++ type ++ ">();"]
      else ["  return manage(res);"] := fun type narrowed => by
    rw [resultLines, htype]
  rw [returnType_of_handle htype] at hresult
  obtain rfl := Except.ok.inj hresult
  rw [hlines]
  by_cases hview : c.isTaggedView = true ∧ s.handleType object = s.handleType c.name
  · rw [if_pos hview]
    exact .narrowed hkind htype hview
  · rw [if_neg hview]
    exact .returned hkind htype hview

/-! ## Ownership -/

/-- The text stands in the code. -/
def Code.Mentions (code : Code) (text : String) : Prop :=
  ∃ line ∈ code, text.toList <:+: line.toList

/-- What code does with a raw result fits the mark on the result: only a result that the caller
    receives is adopted, and any other one is copied. -/
structure HonoursMark (gives : Bool) (code : Code) : Prop where
  adopted : code.Mentions "manage(res)" ∨ code.Mentions "ptr = res" → gives = true
  copied : gives = false → code.Mentions "manage_copy(res)"

theorem Adoption.mentions {lines : Code} (h : Adoption s c m lines) :
    lines.Mentions "manage(res)" ∨ lines.Mentions "ptr = res" := by
  cases h with
  | constructed => exact .inr ⟨_, List.mem_singleton_self _, by decide +kernel⟩
  | returned => exact .inl ⟨_, List.mem_singleton_self _, by decide +kernel⟩
  | narrowed =>
      refine .inl ⟨_, List.mem_singleton_self _, ?_⟩
      rw [String.append_assoc, String.toList_append]
      exact List.IsInfix.trans (by decide +kernel) (List.prefix_append _ _).isInfix

theorem Code.Mentions.mono {part code : Code} {text : String} (h : part.Mentions text)
    (hsub : part ⊆ code) : code.Mentions text := by
  obtain ⟨line, hline, hinfix⟩ := h
  exact ⟨line, hsub hline, hinfix⟩

/-- **Every object that is returned is adopted:** the definition of a member that returns one ends
    in taking the raw result over, whatever the mark says, and thus honours the mark exactly if the
    caller receives ownership of the result. -/
theorem result_adopted (hhandle : m.function.returnType.isHandle = true) {code : Code}
    (h : memberDefinition s c m = .ok code) :
    ∃ signature body, s.signature c m = .ok signature ∧ memberBody s c m = .ok body ∧
      code = [signature.text (s.className c ++ "::"), r"{"] ++ body.beforeCall s ++
        [body.callLine] ++ body.rethrows.flatMap rethrowLines ++ Body.failureLines body.failure ++
        body.result ++ [r"}"] ∧
      Adoption s c m body.result ∧
      (∀ gives, memberDefinition s c (m.withResultMark gives) = .ok code) ∧
      (HonoursMark m.function.givesResult code ↔ m.function.givesResult = true) := by
  have hstring : m.function.returnType ≠ .string := fun htype => by
    rw [htype] at hhandle
    cases hhandle
  obtain ⟨signature, body, hsignature, hbody, rfl⟩ := memberDefinition_eq_ok_iff.1 h
  have hadoption := adoption_of_conversion hhandle hbody.result
  refine ⟨signature, body, signature_eq_ok_iff.2 hsignature, memberBody_eq_ok_iff.2 hbody, ?_,
    hadoption, fun gives => (memberDefinition_withResultMark (.inr hstring) gives).trans h, ?_⟩
  · rw [definitionLines, Body.lines_eq, Body.afterCall]
    simp only [List.append_assoc]
  · have hresult : body.result ⊆ definitionLines s c signature body := fun line hline => by
      rw [definitionLines, Body.lines]
      simp [hline]
    have hmentions := hadoption.mentions.imp (·.mono hresult) (·.mono hresult)
    exact ⟨fun honours => honours.adopted hmentions, fun hgives => ⟨fun _ => hgives, fun hkept => by
      rw [hgives] at hkept
      cases hkept⟩⟩

/-- The method that lends the space of a union map. -/
def peekSpace : Member where
  name := "peek_space"
  function := {
    name := "isl_union_map_peek_space"
    returnType := .handle "isl_space"
    params := [⟨"umap", .handle "isl_union_map", .keep⟩] }
  kind := .instanceMethod

theorem result_adopted_peekSpace :
    peekSpace.function.returnType.isHandle = true ∧
      ∃ code, memberDefinition .standard unionMap peekSpace = .ok code ∧
        ∃ signature body, Settings.signature .standard unionMap peekSpace = .ok signature ∧
          memberBody .standard unionMap peekSpace = .ok body ∧
          code = [signature.text (Settings.standard.className unionMap ++ "::"), r"{"] ++
            body.beforeCall .standard ++ [body.callLine] ++ body.rethrows.flatMap rethrowLines ++
            Body.failureLines body.failure ++ body.result ++ [r"}"] ∧
          Adoption .standard unionMap peekSpace body.result ∧
          (∀ gives, memberDefinition .standard unionMap (peekSpace.withResultMark gives) =
            .ok code) ∧
          (HonoursMark peekSpace.function.givesResult code ↔
            peekSpace.function.givesResult = true) :=
  ⟨rfl, _, rfl, result_adopted rfl rfl⟩

/-- A result that the caller does not receive is adopted all the same. -/
theorem not_honoursMark_peekSpace :
    ∃ code, memberDefinition .standard unionMap peekSpace = .ok code ∧
      peekSpace.function.givesResult = false ∧ "  return manage(res);" ∈ code ∧
      ¬ code.Mentions "manage_copy(res)" ∧ ¬ HonoursMark peekSpace.function.givesResult code := by
  obtain ⟨code, hcode, hreturn, hcopy⟩ :
      ∃ code, memberDefinition .standard unionMap peekSpace = .ok code ∧
        "  return manage(res);" ∈ code ∧
        ∀ line ∈ code, ¬ "manage_copy(res)".toList <:+: line.toList :=
    ⟨_, rfl, by decide +kernel, by decide +kernel⟩
  have hunmentioned : ¬ code.Mentions "manage_copy(res)" := by
    rintro ⟨line, hline, hinfix⟩
    exact hcopy line hline hinfix
  exact ⟨code, hcode, rfl, hreturn, hunmentioned, fun honours => hunmentioned (honours.copied rfl)⟩

end HandleWrap
