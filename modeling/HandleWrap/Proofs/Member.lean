import HandleWrap.Proofs.Receiver
import HandleWrap.Proofs.Success

set_option autoImplicit false

/-! # What a member is made of

A signature and a body are records, and every field of them is made by itself. `SignatureOf` and
`BodyOf` say how, field by field; `signature_eq_ok_iff`, `memberBody_eq_ok_iff` and
`memberDefinition_eq_ok_iff` say that a member has text exactly if all of its fields can be made.
Everything else about members is read off these records. -/

namespace HandleWrap

variable {s : Settings} {t : ClassTable} {c : ObjectClass} {m : Member}

/-! ## Signatures -/

/-- The C++ result type of a function, and whether the result is narrowed to it. -/
theorem returnType_of_cpp {f : CFunction} {spelling : String}
    (h : f.returnType.cpp s = .ok spelling) :
    s.returnType c f = .ok (if c.isTaggedView = true ∧ spelling = s.handleType c.name
      then (s.handleType c.key, true) else (spelling, false)) := by
  have htest : (c.isTaggedView && spelling == s.handleType c.name) =
      decide (c.isTaggedView = true ∧ spelling = s.handleType c.name) := by
    rw [Bool.decide_and, Bool.decide_eq_true]
    rfl
  rw [Settings.returnType, h]
  simp only [bind, Except.bind, htest, decide_eq_true_eq]
  split <;> rfl

/-- A result type is the view or the translation of the type in C. -/
theorem view_or_cpp_of_returnType {f : CFunction} {type : String} {narrowed : Bool}
    (h : s.returnType c f = .ok (type, narrowed)) :
    type = s.handleType c.key ∨ f.returnType.cpp s = .ok type := by
  obtain ⟨spelling, hspelling, _⟩ := bind_eq_ok_iff.1 h
  rw [returnType_of_cpp hspelling, Except.ok.injEq] at h
  split at h
  · exact .inl (Prod.mk.inj h).1.symm
  · obtain rfl := (Prod.mk.inj h).1
    exact .inr hspelling

/-- The C++ result type of a member; a constructor has none. -/
def Settings.resultType (s : Settings) (c : ObjectClass) (m : Member) :
    Except GenerationError (Option String) :=
  match m.kind with
  | .constructor => pure none
  | _ => do
    let (type, _) ← s.returnType c m.function
    return some type

theorem resultType_eq_ok_iff {result : Option String} :
    s.resultType c m = .ok result ↔
      m.kind = .constructor ∧ result = none ∨
      m.kind ≠ .constructor ∧ ∃ type narrowed,
        s.returnType c m.function = .ok (type, narrowed) ∧ result = some type := by
  by_cases hkind : m.kind = .constructor
  · have hresult : s.resultType c m = .ok none := by
      rw [Settings.resultType, hkind]
      rfl
    simp [hresult, hkind, eq_comm]
  · have hresult : s.resultType c m = s.returnType c m.function >>= fun result =>
        pure (some result.1) := by
      unfold Settings.resultType
      split
      · contradiction
      · rfl
    rw [hresult, bind_pure_eq_ok_iff]
    simp [hkind]

/-- The public name of a member after renaming; a constructor has the name of its class. -/
def Settings.publicName (s : Settings) (c : ObjectClass) (m : Member) : String :=
  match m.kind with
  | .constructor => s.className c
  | _ => s.renamed m.name

/-- How the signature of a member is made. -/
structure SignatureOf (s : Settings) (c : ObjectClass) (m : Member) (signature : Signature) :
    Prop where
  result : s.resultType c m = .ok signature.result
  name : signature.name = s.publicName c m
  params : List.Forall₂ (fun p text => p.declaration s = .ok text)
    (m.function.visibleParams m.kind) signature.params
  isConst : signature.isConst = m.kind.hasReceiver

theorem signature_eq (s : Settings) (c : ObjectClass) (m : Member) :
    s.signature c m = do
      let result ← s.resultType c m
      let params ← (m.function.visibleParams m.kind).mapM (Param.declaration s)
      return ⟨result, s.publicName c m, params, m.kind.hasReceiver⟩ := by
  obtain ⟨name, f, kind⟩ := m
  cases kind with
  | constructor => rfl
  | _ => simp only [Settings.signature, Settings.resultType, Settings.publicName, bind_assoc]

theorem signature_eq_ok_iff {signature : Signature} :
    s.signature c m = .ok signature ↔ SignatureOf s c m signature := by
  rw [signature_eq, bind_eq_ok_iff]
  constructor
  · rintro ⟨result, hresult, h⟩
    obtain ⟨params, hparams, h⟩ := bind_eq_ok_iff.1 h
    obtain rfl := pure_eq_ok_iff.1 h
    exact ⟨hresult, rfl, mapM_eq_ok_iff.1 hparams, rfl⟩
  · rintro ⟨hresult, hname, hparams, hconst⟩
    refine ⟨signature.result, hresult, bind_eq_ok_iff.2 ⟨signature.params, ?_, ?_⟩⟩
    · exact mapM_eq_ok_iff.2 hparams
    · rw [← hname, ← hconst]
      rfl

theorem succeeds_signature_iff :
    Succeeds (s.signature c m) ↔ Succeeds (s.resultType c m) ∧
      ∀ p ∈ m.function.visibleParams m.kind, Succeeds (p.declaration s) := by
  rw [signature_eq, ← succeeds_mapM_iff]
  exact succeeds_bind_iff fun _ _ => succeeds_bind_pure_iff

/-! ## Bodies -/

namespace Member

/-- The context that failures of a member are reported to, with exceptions on. -/
def context? (s : Settings) (m : Member) : Option ErrorContext :=
  if s.exceptions then m.function.errorContext? m.kind else none

/-- Whether a failure would have to be reported and no context can be reached. -/
def lacksContext (s : Settings) (m : Member) : Bool :=
  s.exceptions && (m.context? s).isNone && m.function.needsContext m.kind

/-- What becomes of the raw result. -/
def conversion (s : Settings) (c : ObjectClass) (m : Member) : Except GenerationError Code :=
  match m.kind with
  | .constructor => pure ["  ptr = res;"]
  | _ => do
    let (type, narrowed) ← s.returnType c m.function
    return resultLines s m.function type narrowed

end Member

theorem context?_of_exceptions (hs : s.exceptions = true) :
    m.context? s = m.function.errorContext? m.kind :=
  if_pos hs

/-- The result of a method is converted by its C++ type. -/
theorem conversion_of_method (hkind : m.kind ≠ .constructor) :
    m.conversion s c = s.returnType c m.function >>= fun result =>
      pure (resultLines s m.function result.1 result.2) := by
  obtain ⟨name, f, kind⟩ := m
  cases kind with
  | constructor => exact absurd rfl hkind
  | _ => rfl

theorem conversion_eq_ok_iff {lines : Code} :
    m.conversion s c = .ok lines ↔
      m.kind = .constructor ∧ lines = ["  ptr = res;"] ∨
      m.kind ≠ .constructor ∧ ∃ result, s.returnType c m.function = .ok result ∧
        lines = resultLines s m.function result.1 result.2 := by
  by_cases hkind : m.kind = .constructor
  · have hconversion : m.conversion s c = .ok ["  ptr = res;"] := by
      rw [Member.conversion, hkind]
      rfl
    simp [hconversion, hkind, eq_comm]
  · rw [conversion_of_method hkind, bind_pure_eq_ok_iff]
    simp [hkind]

/-- How the body of a member is made. -/
structure BodyOf (s : Settings) (c : ObjectClass) (m : Member) (body : Body) : Prop where
  reachable : m.lacksContext s = false
  nullTests : body.nullTests = if s.exceptions then m.function.nullTests m.kind else []
  context : body.context = m.context? s
  callbackLocals : List.Forall₂ (fun callback locals =>
    callback.2.locals s callback.1.name = .ok locals) m.function.callbacks body.callbackLocals
  callee : body.callee = m.function.name
  args : m.function.callArgs s m.kind = .ok body.args
  rethrows : body.rethrows = if s.exceptions then m.function.callbacks.map (·.1.name) else []
  failure : body.failure = (m.context? s).bind fun context =>
    m.function.failureTest?.map fun test => ⟨test, context.expr⟩
  result : m.conversion s c = .ok body.result

theorem memberBody_eq (s : Settings) (c : ObjectClass) (m : Member) :
    memberBody s c m = if m.lacksContext s then .error .missingContext else do
      let callbackLocals ← m.function.callbacks.mapM fun callback =>
        callback.2.locals s callback.1.name
      let args ← m.function.callArgs s m.kind
      let result ← m.conversion s c
      return {
        nullTests := if s.exceptions then m.function.nullTests m.kind else []
        context := m.context? s
        callbackLocals
        callee := m.function.name
        args
        rethrows := if s.exceptions then m.function.callbacks.map (·.1.name) else []
        failure := (m.context? s).bind fun context =>
          m.function.failureTest?.map fun test => ⟨test, context.expr⟩
        result } := by
  obtain ⟨name, f, kind⟩ := m
  unfold memberBody Member.lacksContext Member.context?
  by_cases h : (s.exceptions && (if s.exceptions = true then f.errorContext? kind else none).isNone
      && f.needsContext kind) = true
  · rw [if_pos h, if_pos h]
    rfl
  · rw [if_neg h, if_neg h]
    cases kind with
    | constructor => rfl
    | _ => simp only [Member.conversion, bind_assoc, pure_bind]

/-- **A member has a body exactly if all fields of one can be made.** -/
theorem memberBody_eq_ok_iff {body : Body} :
    memberBody s c m = .ok body ↔ BodyOf s c m body := by
  rw [memberBody_eq]
  constructor
  · intro h
    split at h
    · cases h
    · next hlacks =>
        obtain ⟨callbackLocals, hlocals, h⟩ := bind_eq_ok_iff.1 h
        obtain ⟨args, hargs, h⟩ := bind_eq_ok_iff.1 h
        obtain ⟨result, hresult, h⟩ := bind_eq_ok_iff.1 h
        obtain rfl := pure_eq_ok_iff.1 h
        exact ⟨Bool.eq_false_iff.2 hlacks, rfl, rfl, mapM_eq_ok_iff.1 hlocals, rfl, hargs, rfl, rfl,
          hresult⟩
  · rintro ⟨hlacks, hnull, hcontext, hlocals, hcallee, hargs, hrethrows, hfailure, hresult⟩
    rw [if_neg (Bool.eq_false_iff.1 hlacks)]
    refine bind_eq_ok_iff.2 ⟨body.callbackLocals, mapM_eq_ok_iff.2 hlocals, ?_⟩
    refine bind_eq_ok_iff.2 ⟨body.args, hargs, bind_eq_ok_iff.2 ⟨body.result, hresult, ?_⟩⟩
    rw [← hnull, ← hcontext, ← hcallee, ← hrethrows, hcontext, ← hfailure, ← hcontext]
    rfl

theorem succeeds_memberBody_iff :
    Succeeds (memberBody s c m) ↔ m.lacksContext s = false ∧
      (∀ callback ∈ m.function.callbacks, Succeeds (callback.2.locals s callback.1.name)) ∧
      Succeeds (m.function.callArgs s m.kind) ∧ Succeeds (m.conversion s c) := by
  rw [memberBody_eq, ← succeeds_mapM_iff]
  split
  · next hlacks => exact iff_of_false (not_succeeds_error _) (by simp [hlacks])
  · next hlacks =>
      rw [and_iff_right (Bool.eq_false_iff.2 hlacks)]
      exact succeeds_bind_iff fun _ _ => succeeds_bind_iff fun _ _ => succeeds_bind_pure_iff

namespace Body

/-- The phases before the call. -/
def beforeCall (s : Settings) (b : Body) : Code :=
  nullCheckLines s b.nullTests ++ (b.context.elim [] (ErrorContext.scopeLines s)) ++
    b.callbackLocals.flatten

/-- The phases after the call. -/
def afterCall (b : Body) : Code :=
  b.rethrows.flatMap rethrowLines ++ failureLines b.failure ++ b.result

/-- A body is one call with phases around it. -/
theorem lines_eq (s : Settings) (b : Body) :
    b.lines s = b.beforeCall s ++ [b.callLine] ++ b.afterCall := by
  unfold lines beforeCall afterCall
  cases b.context <;> simp only [Option.elim, List.append_assoc]

end Body

/-- A member without a context has nothing to report to one. -/
theorem BodyOf.needsContext_eq_false {body : Body} (h : BodyOf s c m body)
    (hs : s.exceptions = true) (hcontext : m.function.errorContext? m.kind = none) :
    m.function.needsContext m.kind = false := by
  have hreachable := h.reachable
  rwa [Member.lacksContext, hs, context?_of_exceptions hs, hcontext] at hreachable

/-- The call of the function of the member. -/
theorem BodyOf.callLine {body : Body} (h : BodyOf s c m body) :
    body.callLine =
      "  auto res = " ++ m.function.name ++ "(" ++ ", ".intercalate body.args ++ ");" := by
  unfold Body.callLine
  rw [h.callee]

/-! ## Declarations and definitions -/

/-- The text of a definition: the signature, and the body in braces. -/
def definitionLines (s : Settings) (c : ObjectClass) (signature : Signature) (body : Body) : Code :=
  [signature.text (s.className c ++ "::"), r"{"] ++ body.lines s ++ [r"}"]

/-- **What a definition is:** a signature and a body that belong to the member. -/
theorem memberDefinition_eq_ok_iff {code : Code} :
    memberDefinition s c m = .ok code ↔ ∃ signature body, SignatureOf s c m signature ∧
      BodyOf s c m body ∧ code = definitionLines s c signature body := by
  rw [memberDefinition, attributed_eq_ok_iff, bind_eq_ok_iff]
  constructor
  · rintro ⟨signature, hsignature, h⟩
    obtain ⟨body, hbody, h⟩ := bind_eq_ok_iff.1 h
    exact ⟨signature, body, signature_eq_ok_iff.1 hsignature, memberBody_eq_ok_iff.1 hbody,
      (pure_eq_ok_iff.1 h).symm⟩
  · rintro ⟨signature, body, hsignature, hbody, rfl⟩
    exact ⟨signature, signature_eq_ok_iff.2 hsignature,
      bind_eq_ok_iff.2 ⟨body, memberBody_eq_ok_iff.2 hbody, rfl⟩⟩

theorem succeeds_memberDefinition_iff :
    Succeeds (memberDefinition s c m) ↔
      Succeeds (s.signature c m) ∧ Succeeds (memberBody s c m) := by
  rw [memberDefinition, succeeds_attributed_iff]
  exact succeeds_bind_iff fun _ _ => succeeds_bind_pure_iff

/-- What a declaration is: the signature with qualifiers, on one line. -/
theorem memberDeclaration_eq_ok_iff {code : Code} :
    memberDeclaration s t c m = .ok code ↔ ∃ signature, SignatureOf s c m signature ∧
      code = ["  " ++ t.qualifiers c m ++ signature.text "" ++ ";"] := by
  rw [memberDeclaration, attributed_eq_ok_iff, bind_pure_eq_ok_iff]
  simp only [signature_eq_ok_iff]

theorem succeeds_memberDeclaration_iff :
    Succeeds (memberDeclaration s t c m) ↔ Succeeds (s.signature c m) := by
  rw [memberDeclaration, succeeds_attributed_iff]
  exact succeeds_bind_pure_iff

/-! ## A sample -/

/-- The method that calls back for each map of a union map. -/
def foreachMap : Member where
  name := "foreach_map"
  function := {
    name := "isl_union_map_foreach_map"
    returnType := .stat
    params := [⟨"umap", .handle "isl_union_map", .keep⟩,
      ⟨"fn", .callback ⟨.stat, [⟨.handle "isl_map", .take⟩, ⟨.userData, .keep⟩]⟩, .keep⟩,
      ⟨"user", .userData, .keep⟩] }
  kind := .instanceMethod

/-- The class of union maps with that method. -/
def unionMap : ObjectClass :=
  (ObjectClass.named "isl_union_map").withMethod foreachMap.name foreachMap.function

end HandleWrap
