import HandleWrap.Proofs.Member
import HandleWrap.Proofs.Pairing

set_option autoImplicit false

/-! # What the C function is called with

The signature and the call walk over the parameters apart: the signature leaves out the receiver and
user data, the call leaves out user data and passes two expressions for a callback. That the call
still has one expression for each C parameter, at its place, rests on callbacks and user data coming
in pairs (`aligned_of_paired`). `definition_call_aligned` puts call and signature together. -/

namespace HandleWrap

/-- `Feeds s kind params i expr`: to a function with the parameters `params`, a wrapper of that kind
    passes `expr` at position `i`. -/
inductive Feeds (s : Settings) (kind : MethodKind) (params : List Param) : Nat → String → Prop where
  /-- The object that the method is called on lends its handle, or hands over a copy. -/
  | receiver {p : Param} (hkind : kind.hasReceiver = true) (hp : params[0]? = some p)
      (hhandle : p.type.isHandle = true) :
      Feeds s kind params 0 (match p.ownership with
        | .keep => "get()"
        | .take => "copy()")
  /-- Any other object lends its handle, or gives it away. -/
  | object {i : Nat} {p : Param} (hi : kind.hasReceiver = true → i ≠ 0) (hp : params[i]? = some p)
      (hobject : p.isObject s = true) :
      Feeds s kind params i (match p.ownership with
        | .keep => p.name ++ ".get()"
        | .take => p.name ++ ".release()")
  /-- A callback is stood for by its trampoline. -/
  | trampoline {i : Nat} {p : Param} (hi : kind.hasReceiver = true → i ≠ 0)
      (hp : params[i]? = some p) (hcallback : p.type.isCallback = true) :
      Feeds s kind params i (p.name ++ "_lambda")
  /-- User data is the holder of the callback right before it. -/
  | holder {i : Nat} {p data : Param} (hp : params[i]? = some p)
      (hcallback : p.type.isCallback = true) (hnext : params[i + 1]? = some data)
      (hdata : data.type.isUserData = true) :
      Feeds s kind params (i + 1) ("&" ++ p.name ++ "_data")
  /-- Anything else is a single expression that hands its value on. -/
  | value {i : Nat} {p : Param} {expr : String} (hi : kind.hasReceiver = true → i ≠ 0)
      (hp : params[i]? = some p) (hobject : p.isObject s = false)
      (hcallback : p.type.isCallback = false) (huse : p.uses s .argument = .ok [expr]) :
      Feeds s kind params i expr

/-- Every parameter is fed by one expression, at the same position. -/
def Aligned (s : Settings) (kind : MethodKind) (params : List Param) (args : List String) : Prop :=
  args.length = params.length ∧ ∀ i expr, args[i]? = some expr → Feeds s kind params i expr

variable {s : Settings} {c : ObjectClass} {m : Member} {f : CFunction} {kind kind' : MethodKind}

/-! ## Alignment, block by block -/

/-- Arguments stay fed behind one more parameter, whatever that one is. -/
theorem Feeds.shift {params : List Param} {i : Nat} {expr : String}
    (h : Feeds s kind' params i expr) (hkind' : kind'.hasReceiver = false) (p : Param) :
    Feeds s kind (p :: params) (i + 1) expr := by
  cases h with
  | receiver hkind _ _ => rw [hkind'] at hkind; cases hkind
  | object _ hp hobject => exact .object (fun _ => Nat.succ_ne_zero i) hp hobject
  | trampoline _ hp hcallback => exact .trampoline (fun _ => Nat.succ_ne_zero i) hp hcallback
  | holder hp hcallback hnext hdata => exact .holder hp hcallback hnext hdata
  | value _ hp hobject hcallback huse =>
      exact .value (fun _ => Nat.succ_ne_zero i) hp hobject hcallback huse

theorem aligned_nil : Aligned s kind [] [] :=
  ⟨rfl, fun i expr h => by simp at h⟩

/-- One parameter with its expression in front. -/
theorem Aligned.cons {params : List Param} {args : List String} (h : Aligned s kind' params args)
    (hkind' : kind'.hasReceiver = false) {p : Param} {expr : String}
    (hp : Feeds s kind (p :: params) 0 expr) : Aligned s kind (p :: params) (expr :: args) := by
  refine ⟨by rw [List.length_cons, List.length_cons, h.1], fun i e he => ?_⟩
  cases i with
  | zero =>
      rw [List.getElem?_cons_zero] at he
      exact Option.some.inj he ▸ hp
  | succ i =>
      rw [List.getElem?_cons_succ] at he
      exact (h.2 i e he).shift hkind' p

/-- A callback and its user data with their two expressions in front. -/
theorem Aligned.callback {params : List Param} {args : List String}
    (h : Aligned s kind' params args) (hkind' : kind'.hasReceiver = false)
    (hkind : kind.hasReceiver = false) {p data : Param} (hcallback : p.type.isCallback = true)
    (hdata : data.type.isUserData = true) :
    Aligned s kind (p :: data :: params)
      ((p.name ++ "_lambda") :: ("&" ++ p.name ++ "_data") :: args) := by
  have hreceiver : kind.hasReceiver = true → (0 : Nat) ≠ 0 := by simp [hkind]
  refine ⟨by simp only [List.length_cons, h.1], fun i e he => ?_⟩
  match i with
  | 0 =>
      rw [List.getElem?_cons_zero] at he
      exact Option.some.inj he ▸ .trampoline hreceiver rfl hcallback
  | 1 =>
      rw [List.getElem?_cons_succ, List.getElem?_cons_zero] at he
      exact Option.some.inj he ▸ .holder (i := 0) rfl hcallback rfl hdata
  | i + 2 =>
      rw [List.getElem?_cons_succ, List.getElem?_cons_succ] at he
      exact ((h.2 i e he).shift hkind' data).shift hkind' p

/-! ## The expressions of one parameter -/

theorem handleUse_argument (name : String) (ownership : Ownership) :
    handleUse .argument name ownership = match ownership with
      | .keep => name ++ ".get()"
      | .take => name ++ ".release()" := by
  cases ownership with
  | keep => exact String.append_assoc
  | take => exact String.append_assoc

/-- An object hands its handle on. -/
theorem uses_of_isObject {source : Source} {p : Param} (hobject : p.isObject s = true) :
    p.uses s source = .ok [handleUse source p.name p.ownership] := by
  obtain ⟨name, type, ownership⟩ := p
  cases type with
  | handle => rfl
  | context =>
      have hs : s.extensions = true := hobject
      simp only [Param.uses, hs, if_true]
  | _ => cases hobject

/-- Only a callback is handed on by more than one expression. -/
theorem uses_eq_singleton {source : Source} {p : Param} {exprs : List String}
    (hcallback : p.type.isCallback = false) (huse : p.uses s source = .ok exprs) :
    ∃ expr, exprs = [expr] := by
  obtain ⟨name, type, ownership⟩ := p
  cases type with
  | stat => cases huse
  | userData => cases huse
  | other => cases huse
  | callback => cases hcallback
  | _ => exact ⟨_, (Except.ok.inj huse).symm⟩

/-- A parameter that stands alone is fed by the one expression that hands it on. -/
theorem feeds_of_uses {p : Param} {params : List Param} {exprs : List String}
    (hkind : kind.hasReceiver = false) (hcallback : p.type.isCallback = false)
    (huse : p.uses s .argument = .ok exprs) :
    ∃ expr, exprs = [expr] ∧ Feeds s kind (p :: params) 0 expr := by
  have hreceiver : kind.hasReceiver = true → (0 : Nat) ≠ 0 := by simp [hkind]
  obtain ⟨expr, rfl⟩ := uses_eq_singleton hcallback huse
  refine ⟨expr, rfl, ?_⟩
  cases hobject : p.isObject s with
  | true =>
      rw [uses_of_isObject hobject] at huse
      obtain rfl := List.singleton_inj.1 (Except.ok.inj huse)
      rw [handleUse_argument]
      exact .object hreceiver rfl hobject
  | false => exact .value hreceiver rfl hobject hcallback huse

/-! ## The expressions of all parameters -/

/-- The parameters that the call passes something for by themselves. -/
def passedParams (params : List Param) : List Param :=
  params.filter fun p => !p.type.isUserData

/-- **Pairs keep the call aligned:** the expressions of blocks of parameters, put together in order,
    feed each parameter at its own position. -/
theorem aligned_of_paired (hkind : kind.hasReceiver = false) {params : List Param}
    (hpaired : Paired params) {exprs : List (List String)}
    (huses : List.Forall₂ (fun p uses => p.uses s .argument = .ok uses) (passedParams params)
      exprs) :
    Aligned s kind params exprs.flatten := by
  -- along the blocks; behind a callback the user data is skipped, and its expression is the second
  -- one of the callback
  induction hpaired generalizing exprs with
  | nil =>
      obtain rfl := List.forall₂_nil_left_iff.1 huses
      exact aligned_nil
  | single hcallback hdata _ ih =>
      rw [passedParams, List.filter_cons_of_pos (by simp [hdata]),
        List.forall₂_cons_left_iff] at huses
      obtain ⟨first, rest, huse, hrest, rfl⟩ := huses
      obtain ⟨expr, rfl, hfeeds⟩ := feeds_of_uses hkind hcallback huse
      exact (ih hrest).cons hkind hfeeds
  | @callback p data params signature hp _ hdata _ ih =>
      have hcallback : p.type.isCallback = true := by rw [hp]; rfl
      have hpdata : p.type.isUserData = false := by rw [hp]; rfl
      rw [passedParams, List.filter_cons_of_pos (by simp [hpdata]),
        List.filter_cons_of_neg (by simp [hdata]), List.forall₂_cons_left_iff] at huses
      obtain ⟨first, rest, huse, hrest, rfl⟩ := huses
      rw [Param.uses, hp] at huse
      obtain rfl := Except.ok.inj huse
      exact (ih hrest).callback hkind hkind hcallback hdata

/-- The expressions of arguments are put together parameter by parameter. -/
theorem forall₂_uses_argument {params : List Param} {exprs : List (List String)} :
    List.Forall₂ (fun x uses => x.2.uses s x.1 = .ok uses)
        ((params.map (Prod.mk Source.argument)).filter fun x => !x.2.type.isUserData) exprs ↔
      List.Forall₂ (fun p uses => p.uses s .argument = .ok uses) (passedParams params) exprs := by
  rw [List.filter_map, List.forall₂_map_left_iff]
  rfl

/-- The object that a method is called on is fed to the first parameter. -/
theorem feeds_receiver {first : Param} {rest : List Param} {exprs : List String}
    (hkind : kind.hasReceiver = true) (hhandle : first.type.isHandle = true)
    (huse : first.uses s .receiver = .ok exprs) :
    ∃ expr, exprs = [expr] ∧ Feeds s kind (first :: rest) 0 expr := by
  have hfeeds : Feeds s kind (first :: rest) 0 _ := .receiver hkind rfl hhandle
  obtain ⟨name, type, ownership⟩ := first
  cases type with
  | handle =>
      refine ⟨_, (Except.ok.inj huse).symm, ?_⟩
      cases ownership <;> exact hfeeds
  | _ => cases hhandle

/-- What the call of a function with paired parameters passes. -/
theorem aligned_callArgs {args : List String} (hpaired : Paired f.params)
    (hreceiver : f.BindsReceiver kind) (hargs : f.callArgs s kind = .ok args) :
    Aligned s kind f.params args := by
  obtain ⟨exprs, huses, rfl⟩ := callArgs_eq_ok_iff.1 hargs
  cases hkind : kind.hasReceiver with
  | false =>
      rw [sources_of_not_hasReceiver f hkind] at huses
      exact aligned_of_paired hkind hpaired (forall₂_uses_argument.1 huses)
  | true =>
      obtain ⟨first, rest, hparams, hhandle⟩ := hreceiver hkind
      obtain ⟨hcallback, hdata⟩ := CType.plain_of_isHandle hhandle
      rw [hparams] at hpaired ⊢
      rw [sources_of_hasReceiver hkind hparams, List.filter_cons_of_pos (by simp [hdata]),
        List.forall₂_cons_left_iff] at huses
      obtain ⟨firstExprs, restExprs, huse, hrest, rfl⟩ := huses
      obtain ⟨expr, rfl, hfeeds⟩ := feeds_receiver hkind hhandle huse
      -- behind the receiver the call is that of a function without one
      have hargument : MethodKind.hasReceiver .staticMethod = false := rfl
      have haligned : Aligned s .staticMethod rest restExprs.flatten :=
        aligned_of_paired hargument ((paired_cons_single_iff hcallback hdata).1 hpaired)
          (forall₂_uses_argument.1 hrest)
      exact haligned.cons hargument hfeeds

example : foreachMap.function.callArgs .standard .instanceMethod =
    .ok ["get()", "fn_lambda", "&fn_data"] := by
  rfl

/-! ## The call and the signature -/

/-- What an object other than the receiver is fed by: the mark of the parameter says whether it
    lends its handle or gives it away. -/
theorem Feeds.eq_of_isObject {params : List Param} {i : Nat} {p : Param} {expr : String}
    (h : Feeds s kind params i expr) (hp : params[i]? = some p)
    (hi : kind.hasReceiver = true → i ≠ 0) (hobject : p.isObject s = true) :
    expr = match p.ownership with
      | .keep => p.name ++ ".get()"
      | .take => p.name ++ ".release()" := by
  obtain ⟨hcallback, hdata⟩ := Param.plain_of_isObject hobject
  cases h with
  | receiver hkind _ _ => exact absurd rfl (hi hkind)
  | object _ hp' _ =>
      obtain rfl := Option.some.inj (hp.symm.trans hp')
      rfl
  | trampoline _ hp' hcallback' =>
      obtain rfl := Option.some.inj (hp.symm.trans hp')
      rw [hcallback] at hcallback'
      cases hcallback'
  | holder _ _ hnext hdata' =>
      obtain rfl := Option.some.inj (hp.symm.trans hnext)
      rw [hdata] at hdata'
      cases hdata'
  | value _ hp' hobject' _ _ =>
      obtain rfl := Option.some.inj (hp.symm.trans hp')
      rw [hobject] at hobject'
      cases hobject'

/-- An object is declared by value if the callee takes it over, and else as a `const`
    reference. -/
theorem declaration_of_isObject {p : Param} (hobject : p.isObject s = true) :
    ∃ type, p.type.cpp s = .ok type ∧ p.declaration s = .ok (match p.ownership with
      | .keep => "const " ++ type ++ " &" ++ p.name
      | .take => declared type p.name) := by
  obtain ⟨name, type, ownership⟩ := p
  cases type with
  | handle cName =>
      obtain ⟨type, hcpp⟩ := (succeeds_cpp_iff s (.handle cName)).2 (.handle cName)
      refine ⟨type, hcpp, declaration_eq_ok_iff.2 ⟨by simp, type, hcpp, ?_⟩⟩
      cases ownership <;> rfl
  | context =>
      have hs : s.extensions = true := hobject
      obtain ⟨type, hcpp⟩ := (succeeds_cpp_iff s .context).2 .context
      refine ⟨type, hcpp, declaration_eq_ok_iff.2 ⟨by simp, type, hcpp, ?_⟩⟩
      cases ownership <;> simp [Param.byValue, Param.isObject, CType.isContext, hs]
  | _ => cases hobject

/-- How a call and a signature fit the C function of a member. -/
structure CallFits (s : Settings) (m : Member) (args declarations : List String) : Prop where
  /-- Every C parameter is passed one expression, at its position. -/
  aligned : Aligned s m.kind m.function.params args
  /-- The signature has the C parameters in order, without the receiver and user data. -/
  visible : List.Forall₂ (fun p text => p.declaration s = .ok text)
    ((m.function.params.drop (if m.kind = .instanceMethod then 1 else 0)).filter
      fun p => !p.type.isUserData) declarations
  /-- An object that the call releases comes by value, and one that it borrows by `const`
      reference. -/
  objects : ∀ i p, m.function.params[i]? = some p → (m.kind = .instanceMethod → i ≠ 0) →
    p.isObject s = true → ∃ type, p.type.cpp s = .ok type ∧
      (args[i]? = some (p.name ++ ".release()") ∧
          p.declaration s = .ok (declared type p.name) ∨
        args[i]? = some (p.name ++ ".get()") ∧
          p.declaration s = .ok ("const " ++ type ++ " &" ++ p.name))

/-- **Call and signature fit the C function:** the definition of a member with paired parameters
    makes one call, which passes every C parameter its own expression and releases only what the
    signature has by value. -/
theorem definition_call_aligned
    (hpairs : pairingProblem? m.function.name false m.function.params = none)
    (hkind : m.kind = .instanceMethod → c.methodKind m.function = .instanceMethod) {code : Code}
    (h : memberDefinition s c m = .ok code) :
    ∃ signature body, s.signature c m = .ok signature ∧ memberBody s c m = .ok body ∧
      code = [signature.text (s.className c ++ "::"), r"{"] ++ body.beforeCall s ++
        ["  auto res = " ++ m.function.name ++ "(" ++ ", ".intercalate body.args ++ ");"] ++
        body.afterCall ++ [r"}"] ∧
      CallFits s m body.args signature.params := by
  obtain ⟨signature, body, hsignature, hbody, rfl⟩ := memberDefinition_eq_ok_iff.1 h
  have haligned : Aligned s m.kind m.function.params body.args :=
    aligned_callArgs ((pairingProblem?_eq_none_iff _ _).1 hpairs)
      (bindsReceiver_of_methodKind hkind) hbody.args
  refine ⟨signature, body, signature_eq_ok_iff.2 hsignature, memberBody_eq_ok_iff.2 hbody, ?_,
    haligned, ?_, ?_⟩
  · rw [definitionLines, Body.lines_eq, hbody.callLine]
    simp only [List.append_assoc]
  · have hvisible := hsignature.params
    simp only [CFunction.visibleParams, hasReceiver_eq_true_iff] at hvisible
    exact hvisible
  · intro i p hp hi hobject
    have hlt : i < body.args.length := by
      rw [haligned.1]
      exact (List.getElem?_eq_some_iff.1 hp).1
    have hexpr := (haligned.2 i _ (List.getElem?_eq_getElem hlt)).eq_of_isObject hp
      (fun hm => hi (hasReceiver_eq_true_iff.1 hm)) hobject
    obtain ⟨type, hcpp, hdeclaration⟩ := declaration_of_isObject hobject
    refine ⟨type, hcpp, ?_⟩
    rw [List.getElem?_eq_getElem hlt, hexpr, hdeclaration]
    cases p.ownership with
    | take => exact Or.inl ⟨rfl, rfl⟩
    | keep => exact Or.inr ⟨rfl, rfl⟩

theorem definition_call_aligned_foreachMap :
    pairingProblem? foreachMap.function.name false foreachMap.function.params = none ∧
      unionMap.methodKind foreachMap.function = .instanceMethod ∧
      ∃ code, memberDefinition .standard unionMap foreachMap = .ok code ∧
        ∃ signature body, Settings.signature .standard unionMap foreachMap = .ok signature ∧
          memberBody .standard unionMap foreachMap = .ok body ∧
          code = [signature.text (Settings.standard.className unionMap ++ "::"), r"{"] ++
            body.beforeCall .standard ++
            ["  auto res = " ++ foreachMap.function.name ++ "(" ++
              ", ".intercalate body.args ++ ");"] ++
            body.afterCall ++ [r"}"] ∧
          CallFits .standard foreachMap body.args signature.params :=
  ⟨rfl, by decide, _, rfl, definition_call_aligned rfl (fun _ => by decide) rfl⟩

end HandleWrap
