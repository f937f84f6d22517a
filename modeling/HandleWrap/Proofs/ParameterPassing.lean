import HandleWrap.Passing
import HandleWrap.Proofs.Translation

set_option autoImplicit false

/-! # How parameters are passed

What the signature of a wrapper says about a parameter, and which parameters a wrapper can have. An
object that the callee takes over comes by value and is given away from there, while one that the
caller keeps comes by `const` reference and is lent (`Param.byValue`), so nothing is ever released
through a `const` reference. `declaration_eq_ok_iff` is the whole of `Param.declaration`. -/

namespace HandleWrap

namespace Param

/-- Whether the wrapper has the parameter as an object, which lends its handle or gives it away.
    Without extensions a context is a plain pointer. -/
def isObject (s : Settings) (p : Param) : Bool :=
  p.type.isHandle || (p.type.isContext && s.extensions)

/-- Whether the wrapper has the parameter by value: objects that the callee takes over, and plain
    values. -/
def byValue (s : Settings) (p : Param) : Bool :=
  match p.type with
  | .string | .callback _ => false
  | _ => if p.isObject s then p.ownership == .take else true

/-- The way in which the wrapper has the parameter. -/
def passing (s : Settings) (p : Param) : Passing :=
  if p.byValue s then .byValue else .byConstReference

/-- What declares the parameter: its C++ type and its name, by value or as a `const` reference. -/
def DeclaredAs (s : Settings) (p : Param) (text : String) : Prop :=
  ∃ type, p.type.cpp s = .ok type ∧
    text = if p.byValue s then declared type p.name else "const " ++ type ++ " &" ++ p.name

end Param

/-! ## Objects -/

theorem CType.plain_of_isHandle {type : CType} (h : type.isHandle = true) :
    type.isCallback = false ∧ type.isUserData = false := by
  cases type with
  | handle name => exact ⟨rfl, rfl⟩
  | _ => cases h

theorem CType.plain_of_isContext {type : CType} (h : type.isContext = true) :
    type.isCallback = false ∧ type.isUserData = false := by
  cases type with
  | context => exact ⟨rfl, rfl⟩
  | _ => cases h

theorem CType.isHandle_of_isContext {type : CType} (h : type.isContext = true) :
    type.isHandle = false := by
  cases type with
  | context => rfl
  | _ => cases h

theorem isUserData_eq_true_iff {type : CType} : type.isUserData = true ↔ type = .userData := by
  cases type <;> simp [CType.isUserData]

/-- An object is neither a callback nor user data. -/
theorem Param.plain_of_isObject {s : Settings} {p : Param} (hobject : p.isObject s = true) :
    p.type.isCallback = false ∧ p.type.isUserData = false := by
  rw [Param.isObject, Bool.or_eq_true, Bool.and_eq_true] at hobject
  rcases hobject with hhandle | ⟨hcontext, _⟩
  · exact CType.plain_of_isHandle hhandle
  · exact CType.plain_of_isContext hcontext

/-! ## Declarations -/

theorem category?_eq_some_stat_iff {type : CType} {ownership : Ownership} :
    type.category? ownership = some .stat ↔ type = .stat := by
  cases type <;> cases ownership <;> simp [CType.category?]

/-- The category of a parameter decides how it is passed, but for a context that is a plain
    pointer. -/
theorem passing_eq_of_category {s : Settings} {p : Param} {category : Category}
    (hcategory : p.type.category? p.ownership = some category) (hstat : category ≠ .stat) :
    p.passing s = if p.type.isContext && !s.extensions then .byValue
      else Passing.of category p.ownership := by
  obtain ⟨name, type, ownership⟩ := p
  cases type with
  | stat => cases hcategory; exact absurd rfl hstat
  | userData => cases hcategory
  | other spelling => cases hcategory
  | handle name => cases ownership <;> cases hcategory <;> rfl
  | context =>
      cases hcategory
      cases ownership <;> cases hs : s.extensions <;>
        simp [Param.passing, Param.byValue, Param.isObject, CType.isContext, CType.isHandle, hs,
          Passing.of]
  | _ => cases hcategory; rfl

theorem declare_passing (s : Settings) (p : Param) (type : String) :
    (p.passing s).declare type p.name =
      if p.byValue s then declared type p.name else "const " ++ type ++ " &" ++ p.name := by
  unfold Param.passing
  split <;> rfl

/-- What becomes of a parameter that has a category. -/
theorem declaration_of_classify {s : Settings} {p : Param} {category : Category} {type : String}
    (h : p.type.classify s p.ownership = .ok (category, type)) :
    p.declaration s = if category = .stat then .error (.unsupportedType p.type.describe)
      else .ok ((p.passing s).declare type p.name) := by
  have hcategory := (classify_eq_ok_iff.1 h).2
  simp only [Param.declaration, h, bind, Except.bind]
  by_cases hstat : category = .stat
  · rw [if_pos hstat, if_pos hstat]
    rfl
  · rw [if_neg hstat, if_neg hstat, passing_eq_of_category hcategory hstat]
    split <;> rfl

/-- **A parameter is declared exactly if it is no bare status and can be translated,** and then in
    the way that its type and its ownership mark ask for. -/
theorem declaration_eq_ok_iff {s : Settings} {p : Param} {text : String} :
    p.declaration s = .ok text ↔ p.type ≠ .stat ∧ p.DeclaredAs s text := by
  constructor
  · intro h
    obtain ⟨⟨category, type⟩, hclassify, _⟩ := bind_eq_ok_iff.1 h
    obtain ⟨hcpp, hcategory⟩ := classify_eq_ok_iff.1 hclassify
    rw [declaration_of_classify hclassify] at h
    split at h
    · cases h
    · next hstat =>
        have htype : p.type ≠ .stat := fun htype => by
          rw [htype] at hcategory
          exact hstat (Option.some.inj hcategory).symm
        exact ⟨htype, type, hcpp, by rw [← declare_passing]; exact (Except.ok.inj h).symm⟩
  · rintro ⟨htype, type, hcpp, rfl⟩
    have htranslatable : p.type.Translatable := (succeeds_cpp_iff s p.type).1 ⟨type, hcpp⟩
    obtain ⟨category, hcategory⟩ :=
      Option.ne_none_iff_exists'.1 (htranslatable.category?_ne_none p.ownership)
    have hstat : category ≠ .stat := fun hstat =>
      htype (category?_eq_some_stat_iff.1 (hstat ▸ hcategory))
    rw [declaration_of_classify (classify_eq_ok_iff.2 ⟨hcpp, hcategory⟩), if_neg hstat,
      declare_passing]

theorem succeeds_declaration_iff (s : Settings) (p : Param) :
    Succeeds (p.declaration s) ↔ p.type ≠ .stat ∧ p.type.Translatable := by
  simp only [Succeeds, declaration_eq_ok_iff, exists_and_left, Param.DeclaredAs,
    ← succeeds_cpp_iff s p.type]
  refine and_congr_right fun _ => ⟨?_, ?_⟩
  · rintro ⟨text, type, hcpp, _⟩
    exact ⟨type, hcpp⟩
  · rintro ⟨type, hcpp⟩
    exact ⟨_, type, hcpp, rfl⟩

/-! ## Expressions -/

/-- A type that a C function can be handed from C++. -/
def CType.isHandedOn : CType → Bool
  | .stat | .userData | .other _ => false
  | _ => true

theorem succeeds_uses_iff (s : Settings) (source : Source) (p : Param) :
    Succeeds (p.uses s source) ↔ p.type.isHandedOn = true := by
  unfold Param.uses
  cases p.type with
  | stat => exact iff_of_false (not_succeeds_error _) (by simp [CType.isHandedOn])
  | userData => exact iff_of_false (not_succeeds_error _) (by simp [CType.isHandedOn])
  | other spelling => exact iff_of_false (not_succeeds_error _) (by simp [CType.isHandedOn])
  | _ => exact iff_of_true ⟨_, rfl⟩ rfl

end HandleWrap
