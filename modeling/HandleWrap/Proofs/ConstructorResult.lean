import HandleWrap.Proofs.CheckLines
import HandleWrap.Header
import HandleWrap.Proofs.ErrorProtocol
import HandleWrap.Proofs.TableAcceptance

set_option autoImplicit false

/-! # What a constructor stores

With exceptions on a constructor always has a context that failures are reported to, and it always
stores the raw result in its object. Whether the result is looked at in between hangs on its type
alone (`stores_checked_iff`), and no table restricts the type: a result that does not tell a failure
by its type, such as a pointer of unknown shape, is stored as it is. -/

namespace HandleWrap

variable {s : Settings} {c : ObjectClass} {m : Member} {f : CFunction}

/-- `StoresChecked lines expr`: the raw result is stored behind a check that throws its failure to
    the context `expr`. -/
def StoresChecked (lines : Code) (expr : String) : Prop :=
  ∃ before test between, (test = "res < 0" ∨ test = "!res") ∧
    lines = before ++ ["  if (" ++ test ++ ")",
      "    throw exception::create_from_last_error(" ++ expr ++ ");"] ++ between ++ ["  ptr = res;"]

/-- A constructor has a context. -/
theorem BodyOf.exists_context {body : Body} (h : BodyOf s c m body) (hs : s.exceptions = true)
    (hkind : m.kind = .constructor) :
    ∃ context, m.function.errorContext? m.kind = some context ∧ body.context = some context := by
  cases hcontext : m.function.errorContext? m.kind with
  | none => exact absurd hkind (needsContext_eq_false_iff.1 (h.needsContext_eq_false hs hcontext)).1
  | some context => exact ⟨context, rfl, by rw [h.context, context?_of_exceptions hs, hcontext]⟩

/-- The lines behind the call of a constructor: what callbacks have thrown, the check that the type
    of the result asks for, and the store. -/
theorem BodyOf.afterCall_eq {body : Body} (h : BodyOf s c m body) (hs : s.exceptions = true)
    (hkind : m.kind = .constructor) {context : ErrorContext}
    (hcontext : m.function.errorContext? m.kind = some context) :
    body.afterCall = body.rethrows.flatMap rethrowLines ++
      failureCheckLines m.function context.expr ++ ["  ptr = res;"] := by
  have hfailure := h.failure
  rw [context?_of_exceptions hs, hcontext, Option.bind_some] at hfailure
  have hresult : body.result = ["  ptr = res;"] := by
    obtain ⟨_, hlines⟩ | ⟨hmethod, _⟩ := conversion_eq_ok_iff.1 h.result
    · exact hlines
    · exact absurd hkind hmethod
  rw [Body.afterCall, hfailure, failureLines_eq, hresult]

/-- The check is there for a type that tells a failure. -/
theorem failureCheckLines_of_tellsFailure (h : f.returnType.tellsFailure = true) (expr : String) :
    ∃ test, (test = "res < 0" ∨ test = "!res") ∧
      failureCheckLines f expr = ["  if (" ++ test ++ ")",
        "    throw exception::create_from_last_error(" ++ expr ++ ");"] := by
  unfold failureCheckLines
  cases htype : f.returnType with
  | stat | bool => exact ⟨_, .inl rfl, rfl⟩
  | handle name => exact ⟨_, .inr rfl, rfl⟩
  | _ => rw [htype] at h; cases h

theorem failureCheckLines_of_not_tellsFailure (h : f.returnType.tellsFailure = false)
    (expr : String) : failureCheckLines f expr = [] := by
  unfold failureCheckLines
  cases htype : f.returnType with
  | stat | bool | handle => rw [htype] at h; cases h
  | _ => rfl

/-- Whether the line throws an exception. -/
def Throws (line : String) : Prop :=
  "    throw ".toList <+: line.toList

/-- Rethrowing is no throwing, and neither is storing. -/
theorem not_throws_of_mem {names : List String} {line : String}
    (hline : line ∈ names.flatMap rethrowLines ++ ["  ptr = res;"]) : ¬ Throws line := by
  have hclear : ∀ lead rest : String, differ "    throw ".toList lead.toList = true →
      ¬ Throws (lead ++ rest) := fun _ rest => not_prefix_append_of_differ rest
  rcases List.mem_append.1 hline with hline | hline
  · obtain ⟨name, _, hline⟩ := List.mem_flatMap.1 hline
    rw [rethrowLines, String.append_assoc, String.append_assoc] at hline
    rcases List.mem_cons.1 hline with rfl | hline
    · exact hclear _ _ (by decide +kernel)
    · rw [List.mem_singleton.1 hline]
      exact hclear _ _ (by decide +kernel)
  · rw [List.mem_singleton.1 hline]
    exact hclear "  ptr = res;" "" (by decide +kernel)

/-- A check throws. -/
theorem StoresChecked.exists_throws {lines : Code} {expr : String} (h : StoresChecked lines expr) :
    ∃ line ∈ lines, Throws line := by
  obtain ⟨before, test, between, _, rfl⟩ := h
  refine ⟨"    throw exception::create_from_last_error(" ++ expr ++ ");", by simp, ?_⟩
  rw [Throws, String.append_assoc, String.toList_append]
  exact List.IsPrefix.trans (by decide +kernel) (List.prefix_append _ _)

/-- Behind the call the result is checked exactly for a type that tells a failure, and for any other
    type no line there throws. -/
theorem BodyOf.storesChecked_iff {body : Body} (h : BodyOf s c m body) (hs : s.exceptions = true)
    (hkind : m.kind = .constructor) {context : ErrorContext}
    (hcontext : m.function.errorContext? m.kind = some context) :
    (StoresChecked body.afterCall context.expr ↔ m.function.returnType.tellsFailure = true) ∧
      (m.function.returnType.tellsFailure = false → ∀ line ∈ body.afterCall, ¬ Throws line) := by
  rw [h.afterCall_eq hs hkind hcontext]
  cases htype : m.function.returnType.tellsFailure with
  | true =>
      obtain ⟨test, htest, hcheck⟩ := failureCheckLines_of_tellsFailure htype context.expr
      rw [hcheck]
      exact ⟨iff_of_true ⟨body.rethrows.flatMap rethrowLines, test, [], htest, by simp⟩ rfl, nofun⟩
  | false =>
      rw [failureCheckLines_of_not_tellsFailure htype, List.append_nil]
      refine ⟨iff_of_false (fun hstores => ?_) nofun, fun _ line => not_throws_of_mem⟩
      obtain ⟨line, hline, hthrows⟩ := hstores.exists_throws
      exact not_throws_of_mem hline hthrows

/-- **When the result is checked before it is stored:** with exceptions on the definition of a
    constructor reports to a context and ends in storing the raw result. Behind the call stands a
    check of the result exactly for a type that tells a failure, and otherwise nothing is thrown
    there but what a callback has thrown. -/
theorem stores_checked_iff (hs : s.exceptions = true) (hkind : m.kind = .constructor) {code : Code}
    (h : memberDefinition s c m = .ok code) :
    ∃ signature body context, s.signature c m = .ok signature ∧ memberBody s c m = .ok body ∧
      m.function.errorContext? m.kind = some context ∧ body.context = some context ∧
      code = [signature.text (s.className c ++ "::"), r"{"] ++ body.beforeCall s ++
        ["  auto res = " ++ m.function.name ++ "(" ++ ", ".intercalate body.args ++ ");"] ++
        body.afterCall ++ [r"}"] ∧
      body.afterCall.getLast? = some "  ptr = res;" ∧
      (StoresChecked body.afterCall context.expr ↔ m.function.returnType.tellsFailure = true) ∧
      (m.function.returnType.tellsFailure = false → ∀ line ∈ body.afterCall, ¬ Throws line) := by
  obtain ⟨signature, body, hsignature, hbody, rfl⟩ := memberDefinition_eq_ok_iff.1 h
  obtain ⟨context, hcontext, hmade⟩ := hbody.exists_context hs hkind
  have hlast : body.afterCall.getLast? = some "  ptr = res;" := by
    rw [hbody.afterCall_eq hs hkind hcontext, List.getLast?_append_cons]
    rfl
  refine ⟨signature, body, context, signature_eq_ok_iff.2 hsignature, memberBody_eq_ok_iff.2 hbody,
    hcontext, hmade, ?_, hlast, hbody.storesChecked_iff hs hkind hcontext⟩
  rw [definitionLines, Body.lines_eq, hbody.callLine]
  simp only [List.append_assoc]

/-- The constructor that reads a set, with a result of that type. -/
def readSet (returnType : CType) : CFunction where
  name := "isl_set_read_from_str"
  returnType
  givesResult := true
  params := [⟨"ctx", .context, .keep⟩, ⟨"str", .string, .keep⟩]

/-- The class of sets with that constructor. -/
def readableSet (returnType : CType) : ObjectClass :=
  (ObjectClass.named "isl_set").withConstructor (readSet returnType)

/-- The constructor as a member. -/
def readSetMember (returnType : CType) : Member :=
  ⟨"isl_set_read_from_str", readSet returnType, .constructor⟩

theorem stores_checked_iff_readSet :
    Settings.standard.exceptions = true ∧
      (readSetMember (.handle "isl_set")).kind = .constructor ∧
      ∃ code, memberDefinition .standard (readableSet (.handle "isl_set"))
          (readSetMember (.handle "isl_set")) = .ok code ∧
        ∃ signature body context,
          Settings.signature .standard (readableSet (.handle "isl_set"))
            (readSetMember (.handle "isl_set")) = .ok signature ∧
          memberBody .standard (readableSet (.handle "isl_set"))
            (readSetMember (.handle "isl_set")) = .ok body ∧
          (readSet (.handle "isl_set")).errorContext? .constructor = some context ∧
          body.context = some context ∧
          code = [signature.text
              (Settings.standard.className (readableSet (.handle "isl_set")) ++ "::"), r"{"] ++
            body.beforeCall .standard ++
            ["  auto res = " ++ "isl_set_read_from_str" ++ "(" ++ ", ".intercalate body.args ++
              ");"] ++ body.afterCall ++ [r"}"] ∧
          body.afterCall.getLast? = some "  ptr = res;" ∧
          (StoresChecked body.afterCall context.expr ↔
            (CType.handle "isl_set").tellsFailure = true) ∧
          ((CType.handle "isl_set").tellsFailure = false →
            ∀ line ∈ body.afterCall, ¬ Throws line) :=
  ⟨rfl, rfl, _, rfl, stores_checked_iff rfl rfl rfl⟩

/-- A constructor whose result is a pointer of unknown shape stores it without a check. -/
theorem stores_unchecked_readSet :
    ∃ t text code, ClassTable.ofClasses [readableSet (.other "isl_set *")] = .ok t ∧
      generate .standard t = .ok text ∧ readableSet (.other "isl_set *") ∈ t.toList ∧
      readSetMember (.other "isl_set *") ∈
        (readableSet (.other "isl_set *")).constructorMembers ∧
      memberDefinition .standard (readableSet (.other "isl_set *"))
        (readSetMember (.other "isl_set *")) = .ok code ∧
      code = ["set::set(const isl::ctx &ctx, const std::string &str)", r"{",
        "  options_scoped_set_on_error saved_on_error(ctx, ISL_ON_ERROR_CONTINUE);",
        "  auto res = isl_set_read_from_str(ctx.get(), str.c_str());",
        "  ptr = res;", r"}"] ∧
      ∀ line ∈ code, ¬ Throws line := by
  obtain ⟨t, text, ht, htext⟩ : ∃ t text,
      ClassTable.ofClasses [readableSet (.other "isl_set *")] = .ok t ∧
        generate .standard t = .ok text := ⟨_, _, rfl, rfl⟩
  have hmem : readableSet (.other "isl_set *") ∈ t.toList :=
    (holds_of_ofClasses ht).perm.mem_iff.2 List.mem_cons_self
  refine ⟨t, text, _, ht, htext, hmem, List.mem_cons_self, rfl, by decide +kernel, ?_⟩
  unfold Throws
  decide +kernel

end HandleWrap
