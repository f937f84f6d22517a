import HandleWrap.Proofs.Success
import HandleWrap.Spelling

set_option autoImplicit false

/-! # Types that can be translated

Which C types have a C++ counterpart. User data and types of unknown shape have none, and a callback
has one if its result and all arguments that a closure sees have one, to any depth
(`CType.Translatable`). Whether a type can be translated depends on the type alone
(`succeeds_cpp_iff`): the settings change the spelling of the counterpart only. -/

namespace HandleWrap

/-! ## Induction on types -/

theorem Callback.mem_args_of_mem_publicArgs {signature : Callback} {arg : CallbackArg}
    (h : arg ∈ signature.publicArgs) : arg ∈ signature.args := by
  unfold Callback.publicArgs at h
  split at h
  · exact List.dropLast_subset _ h
  · exact h

/-- A property that passes from the result and the arguments of a callback to the callback holds of
    every type, if it holds of the types that are no callbacks. -/
@[elab_as_elim]
theorem CType.inductionOn {motive : CType → Prop} (type : CType)
    (plain : ∀ type : CType, type.isCallback = false → motive type)
    (callback : ∀ signature : Callback, motive signature.result →
      (∀ arg ∈ signature.args, motive arg.type) → motive (.callback signature)) : motive type :=
  match type with
  | .callback ⟨result, args⟩ =>
      callback ⟨result, args⟩ (result.inductionOn plain callback) fun arg _harg =>
        arg.type.inductionOn plain callback
  | .handle _ | .context | .bool | .stat | .enumeration _ | .integer _ | .string | .userData
  | .other _ => plain _ rfl
termination_by sizeOf type
decreasing_by
  · simp only [CType.callback.sizeOf_spec, Callback.mk.sizeOf_spec]
    omega
  · have hsize : sizeOf arg.type < sizeOf arg := by
      cases arg
      simp only [CallbackArg.mk.sizeOf_spec]
      omega
    have hmem := List.sizeOf_lt_of_mem _harg
    simp only [CType.callback.sizeOf_spec, Callback.mk.sizeOf_spec] at hmem ⊢
    omega

/-! ## Translation to C++ -/

/-- A type with a C++ counterpart. -/
inductive CType.Translatable : CType → Prop where
  | handle (name : String) : Translatable (.handle name)
  | context : Translatable .context
  | bool : Translatable .bool
  | stat : Translatable .stat
  | enumeration (name : String) : Translatable (.enumeration name)
  | integer (name : String) : Translatable (.integer name)
  | string : Translatable .string
  | callback {signature : Callback} (hresult : signature.result.Translatable)
      (hargs : ∀ arg ∈ signature.publicArgs, arg.type.Translatable) :
      Translatable (.callback signature)

theorem translatable_callback_iff {signature : Callback} :
    (CType.callback signature).Translatable ↔ signature.result.Translatable ∧
      ∀ arg ∈ signature.publicArgs, arg.type.Translatable := by
  constructor
  · intro h
    cases h with
    | callback hresult hargs => exact ⟨hresult, hargs⟩
  · rintro ⟨hresult, hargs⟩
    exact .callback hresult hargs

/-- The function object of a callback is put together from its result and the arguments that a
    closure sees. -/
theorem Callback.cpp_eq (s : Settings) (signature : Callback) :
    signature.cpp s = do
      let result ← signature.result.cpp s
      let args ← signature.publicArgs.mapM (·.type.cpp s)
      return "std::function<" ++ result ++ "(" ++ ", ".intercalate args ++ ")>" := by
  rw [← publicTypes_eq]
  cases signature
  rfl

/-- What the function object of a callback takes and returns. -/
theorem Callback.cpp_eq_ok_iff {s : Settings} {signature : Callback} {text : String} :
    signature.cpp s = .ok text ↔ ∃ result types, signature.result.cpp s = .ok result ∧
      List.Forall₂ (fun (arg : CallbackArg) type => arg.type.cpp s = .ok type)
        signature.publicArgs types ∧
      text = "std::function<" ++ result ++ "(" ++ ", ".intercalate types ++ ")>" := by
  rw [Callback.cpp_eq, bind_eq_ok_iff]
  refine exists_congr fun result => ?_
  rw [bind_pure_eq_ok_iff, exists_and_left]
  simp only [mapM_eq_ok_iff]

/-- **A type is translated exactly if it is translatable,** whatever the settings are. -/
theorem succeeds_cpp_iff (s : Settings) (type : CType) :
    Succeeds (type.cpp s) ↔ type.Translatable := by
  induction type using CType.inductionOn with
  | plain type h =>
      cases type with
      | callback signature => cases h
      | userData => exact iff_of_false (not_succeeds_error _) (by rintro ⟨⟩)
      | other spelling => exact iff_of_false (not_succeeds_error _) (by rintro ⟨⟩)
      | _ => exact iff_of_true ⟨_, rfl⟩ (by constructor)
  | callback signature hresult hargs =>
      have hpublic : Succeeds (signature.publicArgs.mapM (·.type.cpp s)) ↔
          ∀ arg ∈ signature.publicArgs, arg.type.Translatable := by
        rw [succeeds_mapM_iff]
        exact forall₂_congr fun arg harg =>
          hargs arg (Callback.mem_args_of_mem_publicArgs harg)
      rw [CType.cpp, Callback.cpp_eq, translatable_callback_iff, ← hresult]
      exact succeeds_bind_iff fun _ _ => succeeds_bind_pure_iff.trans hpublic

/-- A type with a C++ counterpart has a category. -/
theorem CType.Translatable.category?_ne_none {type : CType} (h : type.Translatable)
    (ownership : Ownership) : type.category? ownership ≠ none := by
  cases h with
  | handle name => cases ownership <;> simp [CType.category?]
  | _ => simp [CType.category?]

/-- The category comes with the counterpart. -/
theorem classify_eq_ok_iff {s : Settings} {type : CType} {ownership : Ownership}
    {category : Category} {name : String} :
    type.classify s ownership = .ok (category, name) ↔
      type.cpp s = .ok name ∧ type.category? ownership = some category := by
  rw [CType.classify, bind_eq_ok_iff]
  constructor
  · rintro ⟨name', hname, h⟩
    cases hcategory : type.category? ownership with
    | none => rw [hcategory] at h; cases h
    | some category' =>
        rw [hcategory] at h
        obtain ⟨rfl, rfl⟩ := Prod.mk.inj (pure_eq_ok_iff.1 h)
        exact ⟨hname, rfl⟩
  · rintro ⟨hname, hcategory⟩
    exact ⟨name, hname, by rw [hcategory]; rfl⟩

/-! ## Spelling in C -/

/-- Every type but a callback has a spelling in C by itself. -/
theorem succeeds_inC_iff (s : Settings) (type : CType) :
    Succeeds (type.inC s) ↔ type.isCallback = false := by
  cases type with
  | callback signature => exact iff_of_false (not_succeeds_error _) (by simp [CType.isCallback])
  | _ => exact iff_of_true ⟨_, rfl⟩ rfl

theorem declaredInC_eq_ok_iff {s : Settings} {type : CType} {name text : String} :
    type.declaredInC s name = .ok text ↔ ∃ spelling, type.inC s = .ok spelling ∧
      text = declared spelling name := by
  rw [CType.declaredInC, bind_pure_eq_ok_iff]

theorem succeeds_declaredInC_iff (s : Settings) (type : CType) (name : String) :
    Succeeds (type.declaredInC s name) ↔ type.isCallback = false := by
  rw [← succeeds_inC_iff s]
  exact succeeds_bind_pure_iff

end HandleWrap
