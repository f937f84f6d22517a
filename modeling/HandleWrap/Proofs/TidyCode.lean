import HandleWrap.Proofs.CheckLines
import HandleWrap.Proofs.ErrorProtocol
import HandleWrap.Proofs.Output
import HandleWrap.Proofs.TidyText

set_option autoImplicit false

/-! # Tidy code

Code is tidy if its brackets match and, with `strict`, no line of it begins like a check. Each part
of the output is looked at by itself, and what holds of all parts holds of the whole
(`Code.tidy_flatten`, `Code.tidy_sections`). A part that is there with exceptions on only needs
nothing but matching brackets, since lines are not looked at then (`Code.tidy_of_exceptions`).
Between its opening and closing lines, which hold more than names, the whole output is tidy
(`exists_tidy_of_header`). -/

namespace HandleWrap

variable {strict : Prop} {s : Settings} {t : ClassTable} {c : ObjectClass} {m : Member}
  {code : Code}

namespace Code

/-- The brackets match, and with `strict` no line begins like a check. -/
abbrev Tidy (strict : Prop) (code : Code) : Prop :=
  code.Balanced ∧ (strict → AllCalm code)

theorem tidy_nil : Tidy strict [] :=
  ⟨unclosed?_nil, fun _ => allCalm_nil⟩

theorem Tidy.append {first second : Code} (hfirst : first.Tidy strict)
    (hsecond : second.Tidy strict) : Tidy strict (first ++ second) :=
  ⟨hfirst.1.append hsecond.1,
    fun hstrict => allCalm_append_iff.2 ⟨hfirst.2 hstrict, hsecond.2 hstrict⟩⟩

theorem tidy_flatten {pieces : List Code} (h : ∀ piece ∈ pieces, piece.Tidy strict) :
    Tidy strict pieces.flatten := by
  induction pieces with
  | nil => exact tidy_nil
  | cons piece rest ih =>
      obtain ⟨hpiece, hrest⟩ := List.forall_mem_cons.1 h
      exact hpiece.append (ih hrest)

theorem tidy_spaced {pieces : List Code} (h : ∀ piece ∈ pieces, piece.Tidy strict) :
    Tidy strict (spaced pieces) := by
  have hblank : Tidy strict [""] := by simp +decide [Tidy, Balanced]
  induction pieces with
  | nil => exact tidy_nil
  | cons piece rest ih =>
      obtain ⟨hpiece, hrest⟩ := List.forall_mem_cons.1 h
      cases rest with
      | nil => exact hpiece
      | cons next rest => exact hpiece.append (hblank.append (ih hrest))

theorem tidy_sections {pieces : List Code} (h : ∀ piece ∈ pieces, piece.Tidy strict) :
    Tidy strict (sections pieces) :=
  tidy_spaced fun piece hpiece => h piece (List.mem_of_mem_filter hpiece)

theorem tidy_if {p : Prop} [Decidable p] (h : p → code.Tidy strict) :
    Tidy strict (if p then code else []) := by
  split
  · next hp => exact h hp
  · exact tidy_nil

/-- With exceptions on nothing is asked of lines. -/
theorem tidy_of_exceptions (hs : s.Tidy strict) (hexc : s.exceptions = true)
    (h : code.Balanced) : code.Tidy strict :=
  ⟨h, fun hstrict => absurd hexc (by simp [hs.exceptions hstrict])⟩

theorem tidy_if_exceptions (hs : s.Tidy strict) (h : code.Balanced) :
    Tidy strict (if s.exceptions then code else []) :=
  tidy_if fun hexc => tidy_of_exceptions hs hexc h

end Code

/-- What is known of the names that the text of a class is made of, together: every part of the text
    is simplified with all of it. -/
theorem tidy_names (hs : s.Tidy strict) (hc : c.Tidy strict) :
    (TidyText strict s.targetNamespace ∧ (strict → Begins s.targetNamespace)) ∧
      TidyText strict s.cPrefix ∧ TidyText strict c.key ∧ TidyText strict (s.baseClassName c) ∧
      (TidyText strict c.name ∧ (strict → IsWord c.name)) ∧
      TidyText strict (s.className c) ∧ (strict → IsWord (s.className c)) := by
  have hclass : TidyWord strict (s.className c) := tidyWord_className hc
  exact ⟨⟨hs.targetNamespace.tidyText, hs.begins⟩, hs.cPrefix.tidyText,
    (tidyWord_key hc).tidyText, (tidyWord_stripped hc.name).tidyText,
    ⟨hc.name.tidyText, hc.name.2⟩, hclass.tidyText, hclass.2⟩

/-! ## Declarations -/

theorem tidy_factoryDeclarations (hs : s.Tidy strict) (hc : c.Tidy strict) {lead : String}
    (hlead : lead = "" ∨ lead = "  friend ") : (factoryDeclarations s c lead).Tidy strict := by
  have hnames := tidy_names hs hc
  refine Code.tidy_if fun _ => ?_
  rcases hlead with rfl | rfl
  all_goals
    simp +decide +contextual [Code.Tidy, Code.Balanced, rawPointer, Settings.ownershipMark,
      Settings.qualified, String.append_assoc, hnames]

theorem tidy_viewLines (hs : s.Tidy strict) (hc : c.Tidy strict) :
    (viewLines s c).Tidy strict := by
  have hnames := tidy_names hs hc
  have hbool := (tidyLabel_boolType hs).tidyText
  unfold viewLines ObjectClass.role
  cases c.isTaggedView with
  | true =>
      simp +decide +contextual [Code.Tidy, Code.Balanced, String.append_assoc, hnames, hbool]
  | false => cases c.typeTagAccessor <;> exact Code.tidy_nil

/-- The head of the class opens a block that its last line closes. -/
theorem opens_classHead (hs : s.Tidy strict) (hc : c.Tidy strict) :
    (∀ expected, unclosed? expected (classHead s c) = some ('}' :: expected)) ∧
      (strict → Calm (classHead s c)) := by
  have hnames := tidy_names hs hc
  unfold classHead
  split
  all_goals simp +decide +contextual [String.append_assoc, hnames]

theorem tidy_protectedLines (hs : s.Tidy strict) (hc : c.Tidy strict) :
    (protectedLines c).Tidy strict := by
  have hnames := tidy_names hs hc
  unfold protectedLines
  split
  all_goals simp +decide +contextual [Code.Tidy, Code.Balanced, String.append_assoc, hnames]

theorem tidy_specialDeclarations (hs : s.Tidy strict) (hc : c.Tidy strict) :
    (protectedConstructorDeclaration s c).Tidy strict ∧
      (publicConstructorDeclarations s c).Tidy strict ∧
      (assignmentDeclaration s c).Tidy strict ∧ (contextDeclaration s).Tidy strict := by
  have hnames := tidy_names hs hc
  simp +decide +contextual [Code.Tidy, Code.Balanced, protectedConstructorDeclaration,
    publicConstructorDeclarations, assignmentDeclaration, contextDeclaration, rawPointer,
    Settings.ownershipMark, Settings.qualified, String.append_assoc, hnames]

theorem tidy_destructorDeclaration (hs : s.Tidy strict) (hc : c.Tidy strict) :
    (destructorDeclaration s c).Tidy strict := by
  have hnames := tidy_names hs hc
  refine Code.tidy_if fun _ => ?_
  simp +decide +contextual [Code.Tidy, Code.Balanced, String.append_assoc, hnames]

theorem tidy_pointerDeclarations (hs : s.Tidy strict) (hc : c.Tidy strict) :
    (pointerDeclarations s c).Tidy strict := by
  have hnames := tidy_names hs hc
  refine Code.tidy_if fun _ => ?_
  simp +decide +contextual [Code.Tidy, Code.Balanced, Settings.ownershipMark, String.append_assoc,
    hnames]

theorem tidy_downcastDeclarations (hs : s.Tidy strict) :
    (downcastDeclarations s c).Tidy strict := by
  have hbool := (tidyLabel_boolType hs).tidyText
  unfold downcastDeclarations
  split
  · simp +decide +contextual [Code.Tidy, Code.Balanced, String.append_assoc, hbool]
  · exact Code.tidy_nil

theorem tidy_textDeclaration : (textDeclaration c).Tidy strict := by
  refine Code.tidy_if fun _ => ?_
  simp +decide [Code.Tidy, Code.Balanced]

theorem tidy_memberDeclaration (hs : s.Tidy strict) (hc : c.Tidy strict) (hm : m.Tidy strict)
    (h : memberDeclaration s t c m = .ok code) : code.Tidy strict := by
  obtain ⟨signature, hsignature, rfl⟩ := memberDeclaration_eq_ok_iff.1 h
  have htext := hsignature.tidyText_text hs hc hm
  unfold ClassTable.qualifiers
  split
  · simp +decide +contextual [Code.Tidy, Code.Balanced, String.append_assoc, htext]
  · simp +decide +contextual [Code.Tidy, Code.Balanced, String.append_assoc, htext]
  · split
    all_goals
      simp +decide +contextual [Code.Tidy, Code.Balanced, String.append_assoc, htext]

theorem tidy_memberDeclarations (hs : s.Tidy strict) (hc : c.Tidy strict)
    {members : List Member} (hmembers : ∀ m ∈ members, m.Tidy strict)
    (h : memberDeclarations s t c members = .ok code) : code.Tidy strict := by
  obtain ⟨pieces, hpieces, rfl⟩ := memberDeclarations_eq_ok_iff.1 h
  refine Code.tidy_flatten (forall_mem_of_forall₂ hpieces fun m hm code hcode => ?_)
  exact tidy_memberDeclaration hs hc (hmembers m hm) hcode

theorem tidy_classDeclaration (hs : s.Tidy strict) (hc : c.Tidy strict)
    (h : classDeclaration s t c = .ok code) : code.Tidy strict := by
  obtain ⟨constructors, methods, hconstructors, hmethods, rfl⟩ := classDeclaration_eq_ok_iff.1 h
  have hmember : ∀ m ∈ c.constructorMembers ++ c.methodMembers, m.Tidy strict :=
    fun m hm => tidy_of_mem hc hm
  obtain ⟨hconstructor, hmethod⟩ := List.forall_mem_append.1 hmember
  have hnames := tidy_names hs hc
  have htext : Code.Tidy strict (textDeclaration c) := tidy_textDeclaration
  -- from the head of the class on all parts stand in its block
  simp +decide +contextual [Code.Tidy, Code.Balanced, declarationParts,
    tidy_factoryDeclarations hs hc (.inl rfl), opens_classHead hs hc, tidy_viewLines hs hc,
    tidy_factoryDeclarations hs hc (.inr rfl), tidy_protectedLines hs hc,
    tidy_specialDeclarations hs hc, tidy_memberDeclarations hs hc hconstructor hconstructors,
    tidy_destructorDeclaration hs hc, tidy_pointerDeclarations hs hc,
    tidy_downcastDeclarations hs, htext, tidy_memberDeclarations hs hc hmethod hmethods,
    Settings.qualified, Settings.cName, String.append_assoc, hnames]

/-! ## Built-in definitions -/

theorem balanced_throwNullInput (hs : s.Tidy strict) : (throwNullInput s).Balanced := by
  have htarget := hs.targetNamespace.tidyText
  have hprefix := hs.cPrefix.tidyText
  simp +decide [Code.Balanced, throwNullInput, Settings.qualified, Settings.cName, htarget, hprefix]

theorem balanced_throwLastError {context : String} (hcontext : Balanced context) :
    (throwLastError context).Balanced := by
  simp +decide [Code.Balanced, throwLastError, hcontext]

theorem tidy_pointerCheck (hs : s.Tidy strict) : (pointerCheck s).Tidy strict := by
  refine Code.tidy_if_exceptions hs ?_
  simp +decide [Code.Balanced, balanced_throwNullInput hs]

theorem tidy_factories (hs : s.Tidy strict) (hc : c.Tidy strict) :
    (factories s c).Tidy strict := by
  have hnames := tidy_names hs hc
  have hcheck := tidy_pointerCheck hs
  have hcontext : Balanced "ctx" := balanced_literal (by decide)
  have hthrow := balanced_throwLastError hcontext
  refine Code.tidy_if fun _ => ?_
  cases hexc : s.exceptions with
  | true =>
      refine Code.tidy_of_exceptions hs hexc ?_
      simp +decide [Code.Balanced, adoptingFactory, copyingFactory, rawPointer,
        Settings.ownershipMark, Settings.qualified, hcheck, hthrow, hexc, hnames]
  | false =>
      simp +decide +contextual [Code.Tidy, Code.Balanced, adoptingFactory, copyingFactory,
        rawPointer, Settings.ownershipMark, Settings.qualified, String.append_assoc, hcheck, hexc,
        hnames]

theorem tidy_specialDefinitions (hs : s.Tidy strict) (hc : c.Tidy strict) :
    (publicConstructors s c).Tidy strict ∧ (protectedConstructor s c).Tidy strict ∧
      (assignment s c).Tidy strict ∧ (contextAccess s c).Tidy strict := by
  have hnames := tidy_names hs hc
  have hcontext : Balanced (c.name ++ "_get_ctx(obj.ptr)") :=
    hc.name.1.balanced.append (balanced_literal (by decide))
  have hthrow := balanced_throwLastError hcontext
  have hcheck : Code.Tidy strict (if s.exceptions then
      "  if (obj.ptr && !ptr)" :: throwLastError (c.name ++ "_get_ctx(obj.ptr)") else []) :=
    Code.tidy_if_exceptions hs (by simp +decide [Code.Balanced, hthrow])
  cases hown : c.ownsHandle
  all_goals
    simp +decide +contextual [Code.Tidy, Code.Balanced, publicConstructors, protectedConstructor,
      assignment, contextAccess, rawPointer, Settings.ownershipMark, Settings.qualified,
      String.append_assoc, hcheck, hown, hnames]

theorem tidy_destructor (hs : s.Tidy strict) (hc : c.Tidy strict) :
    (destructor s c).Tidy strict := by
  have hnames := tidy_names hs hc
  refine Code.tidy_if fun _ => ?_
  simp +decide +contextual [Code.Tidy, Code.Balanced, String.append_assoc, hnames]

theorem tidy_pointerAccess (hs : s.Tidy strict) (hc : c.Tidy strict) :
    (pointerAccess s c).Tidy strict := by
  have hnames := tidy_names hs hc
  refine Code.tidy_if fun _ => ?_
  simp +decide +contextual [Code.Tidy, Code.Balanced, Settings.ownershipMark, String.append_assoc,
    hnames]

theorem tidy_textConversion (hs : s.Tidy strict) (hc : c.Tidy strict) :
    (textConversion s c).Tidy strict := by
  have hnames := tidy_names hs hc
  unfold textConversion
  cases hhook : c.stringify with
  | none => exact Code.tidy_nil
  | some hook =>
      have hname := (hc.stringify hook hhook).name.tidyText
      simp +decide +contextual [Code.Tidy, Code.Balanced, String.append_assoc, hname, hnames]

theorem tidy_downcasts (hs : s.Tidy strict) (hc : c.Tidy strict) :
    (downcasts s c).Tidy strict := by
  have hnames := tidy_names hs hc
  have hthrow := balanced_throwNullInput hs
  unfold downcasts ObjectClass.role
  cases c.isTaggedView with
  | true => exact Code.tidy_nil
  | false =>
      cases haccessor : c.typeTagAccessor with
      | none => exact Code.tidy_nil
      | some accessor =>
          have hname := (hc.typeTagAccessor accessor haccessor).name.tidyText
          cases hexc : s.exceptions with
          | true =>
              refine Code.tidy_of_exceptions hs hexc ?_
              simp +decide [Code.Balanced, Settings.boolType, hthrow, hname, hexc, hnames]
          | false =>
              simp +decide +contextual [Code.Tidy, Code.Balanced, Settings.boolType,
                Settings.qualified, String.append_assoc, hname, hexc, hnames]

theorem tidy_streamOperator (hs : s.Tidy strict) (hc : c.Tidy strict) :
    (streamOperator s c).Tidy strict := by
  have hnames := tidy_names hs hc
  refine Code.tidy_if fun _ => ?_
  simp +decide +contextual [Code.Tidy, Code.Balanced, String.append_assoc, hnames]

theorem tidy_equalityOperator (hs : s.Tidy strict) (hc : c.Tidy strict)
    (h : EqualityText s c code) : code.Tidy strict := by
  have hnames := tidy_names hs hc
  cases h with
  | unhooked _ => exact Code.tidy_nil
  | @hooked hook result hhook hresult =>
      have hhook := hc.equality hook hhook
      have htype := (tidyLabel_of_cpp hs hhook.returnType hresult).tidyText
      have hmethod : TidyText strict (equalityMethod s c hook) :=
        (tidyWord_renamed hs (tidyWord_methodName hhook)).tidyText
      simp +decide +contextual [Code.Tidy, Code.Balanced, String.append_assoc, htype, hmethod,
        hnames]

theorem tidy_operators (hs : s.Tidy strict) (hc : c.Tidy strict)
    (h : operators s c = .ok code) : code.Tidy strict := by
  cases operators_eq_ok_iff.1 h with
  | off _ => exact Code.tidy_nil
  | on _ hequality =>
      refine Code.tidy_sections (List.forall_mem_cons.2 ⟨tidy_streamOperator hs hc, ?_⟩)
      exact List.forall_mem_singleton.2 (tidy_equalityOperator hs hc hequality)

/-! ## Callbacks -/

/-- A trampoline calls the function object in a `try` block where exceptions are on. -/
theorem tidy_trampolineLines (hs : s.Tidy strict) {trampoline : Trampoline}
    (h : trampoline.Tidy strict) : (trampoline.lines s).Tidy strict := by
  obtain ⟨hname, hparams, hresult, hargs⟩ := h
  have hword : strict → IsWord trampoline.name := hname.2
  have hname := hname.tidyText
  have hraw : TidyText strict (rawArgName (trampoline.params.length - 1)) := tidyText_rawArgName _
  have houtcome := tidyText_outcome hs trampoline.outcome
  unfold Trampoline.lines
  split
  · next hexc =>
      refine Code.tidy_of_exceptions hs hexc ?_
      have hguarded : (trampoline.guardedLines s).Balanced := by
        unfold Trampoline.guardedLines
        split
        all_goals
          simp +decide [Code.Balanced, Trampoline.closureCall, closureCallText, hargs, houtcome]
      simp +decide [Code.Balanced, trampolineName, holderName, hname, hparams, hresult, hraw,
        hguarded]
  · -- the first line is a local like a saved context, but for the ending of the name
    simp +decide +contextual [Code.Tidy, Code.Balanced, Trampoline.plainLines,
      Trampoline.closureCall, closureCallText, trampolineName, holderName, String.append_assoc,
      hword, hname, hparams, hresult, hargs, hraw, houtcome]

theorem tidy_locals (hs : s.Tidy strict) {name : String} (hname : TidyWord strict name)
    {signature : Callback} (hsignature : (CType.callback signature).Tidy strict)
    (h : signature.locals s name = .ok code) : code.Tidy strict := by
  obtain ⟨holder, trampoline, hholder, htrampoline, rfl⟩ := locals_eq_ok_iff.1 h
  refine Code.Tidy.append ?_
    (tidy_trampolineLines hs (tidy_trampoline hs hsignature hname htrampoline))
  obtain ⟨type, htype, rfl⟩ := holder_eq_ok_iff.1 hholder
  have htype := (tidyLabel_of_cpp hs hsignature htype).tidyText
  have hname := hname.tidyText
  cases hexc : s.exceptions with
  | true =>
      refine Code.tidy_of_exceptions hs hexc ?_
      simp +decide [Code.Balanced, holderName, hname, htype]
  | false =>
      simp +decide +contextual [Code.Tidy, Code.Balanced, holderName, String.append_assoc, hname,
        htype]

theorem balanced_rethrowLines {name : String} (hname : Balanced name) :
    (rethrowLines name).Balanced := by
  simp +decide [Code.Balanced, rethrowLines, holderName, hname]

/-! ## Results -/

theorem tidy_resultLines {f : CFunction} {type : String} (htype : TidyText strict type)
    (narrowed : Bool) : (resultLines s f type narrowed).Tidy strict := by
  have hcast : TidyText strict (converted type "res") :=
    tidyText_converted htype (tidyText_literal (by decide))
  have hplain : Code.Tidy strict (if f.hasCallback then ["  return " ++ converted type "res" ++ ";"]
      else ["  return res;"]) := by
    split
    all_goals simp +decide +contextual [Code.Tidy, Code.Balanced, String.append_assoc, hcast]
  unfold resultLines
  cases f.returnType with
  | handle =>
      cases narrowed
      all_goals simp +decide +contextual [Code.Tidy, Code.Balanced, String.append_assoc, htype]
  | stat =>
      cases s.exceptions
      all_goals simp +decide +contextual [Code.Tidy, Code.Balanced, String.append_assoc, htype]
  | string =>
      cases f.givesResult
      all_goals simp +decide [Code.Tidy, Code.Balanced]
  | enumeration =>
      cases s.extensions
      all_goals simp +decide +contextual [Code.Tidy, Code.Balanced, String.append_assoc, htype]
  | bool =>
      cases s.exceptions
      · simp +decide [Code.Tidy, Code.Balanced]
      · exact hplain
  | context | integer | callback | userData | other => exact hplain

theorem tidy_conversion (hs : s.Tidy strict) (hc : c.Tidy strict) (hm : m.Tidy strict)
    (h : m.conversion s c = .ok code) : code.Tidy strict := by
  obtain ⟨_, rfl⟩ | ⟨_, ⟨type, narrowed⟩, htype, rfl⟩ := conversion_eq_ok_iff.1 h
  · simp +decide [Code.Tidy, Code.Balanced]
  · exact tidy_resultLines (tidyLabel_returnType hs hc hm.function htype).tidyText narrowed

/-! ## Bodies -/

theorem balanced_nullCheckLines (hs : s.Tidy strict) {tests : List String}
    (htests : ∀ test ∈ tests, Balanced test) : (Body.nullCheckLines s tests).Balanced := by
  have hempty : Balanced "" := balanced_literal (by decide)
  have hor : Balanced " || " := balanced_literal (by decide)
  have hlist := intercalate_of_append hempty Balanced.append hor htests
  unfold Body.nullCheckLines
  split
  · exact Code.unclosed?_nil
  · simp +decide [Code.Balanced, hlist, balanced_throwNullInput hs]

theorem balanced_nullTests {f : CFunction} (hf : f.Tidy strict) {kind : MethodKind} :
    ∀ test ∈ f.nullTests kind, Balanced test := by
  intro test htest
  obtain ⟨⟨source, p⟩, hmem, hmade⟩ := List.mem_filterMap.1 htest
  have hp : p ∈ f.params := sources_map_snd f kind ▸ List.mem_map_of_mem hmem
  have hname := (hf.params p hp).name.1.balanced
  cases source with
  | receiver =>
      cases hmade
      exact balanced_literal (by decide)
  | argument =>
      dsimp only at hmade
      split at hmade
      · cases hmade
        exact hname.append (balanced_literal (by decide))
      · cases hmade

/-- What keeps the library quiet about errors, in the context of a parameter. -/
theorem balanced_scopeLines (hs : s.Tidy strict) {f : CFunction} (hf : f.Tidy strict)
    {kind : MethodKind} {context : ErrorContext} (h : f.errorContext? kind = some context) :
    Balanced context.expr ∧ (context.scopeLines s).Balanced := by
  have hfresh : Balanced f.savedContextName := by
    unfold CFunction.savedContextName
    split <;> exact balanced_literal (by decide)
  have hparam : ∀ p ∈ f.params, Balanced p.name := fun p hp => (hf.params p hp).name.1.balanced
  have hquiet : Balanced s.onErrorContinue :=
    (bracketFree_upperCase hs.cPrefix.1).balanced.append (balanced_literal (by decide))
  -- whichever it is, it is made of the name of a parameter
  have hexpr : Balanced context.expr ∧ context.captureLines.Balanced := by
    unfold CFunction.errorContext? at h
    split at h
    · cases h
      exact ⟨balanced_literal (by decide), Code.unclosed?_nil⟩
    · rcases Option.or_eq_some_iff.1 h with h | ⟨_, h⟩
      · obtain ⟨p, hp, rfl⟩ := Option.map_eq_some_iff.1 h
        have hfirst := List.mem_of_mem_head? (Option.filter_eq_some_iff.1 hp).1
        exact ⟨hparam p hfirst, Code.unclosed?_nil⟩
      rcases Option.or_eq_some_iff.1 h with h | ⟨_, h⟩
      · obtain ⟨p, hp, rfl⟩ := Option.map_eq_some_iff.1 h
        have hobject := hparam p (List.mem_of_find?_eq_some hp)
        refine ⟨hfresh, ?_⟩
        simp +decide [Code.Balanced, ErrorContext.captureLines, hfresh, hobject]
      · obtain ⟨p, hp, rfl⟩ := Option.map_eq_some_iff.1 h
        exact ⟨hparam p (List.mem_of_find?_eq_some hp), Code.unclosed?_nil⟩
  obtain ⟨hexpr, hcapture⟩ := hexpr
  refine ⟨hexpr, ?_⟩
  simp +decide [Code.Balanced, ErrorContext.scopeLines, hexpr, hcapture, hquiet]

theorem balanced_failureLines {f : CFunction} {expr : String} (hexpr : Balanced expr) :
    (Body.failureLines (f.failureTest?.map fun test => ⟨test, expr⟩)).Balanced := by
  have hthrow := balanced_throwLastError hexpr
  unfold CFunction.failureTest?
  cases f.returnType
  all_goals simp +decide [Code.Balanced, Body.failureLines, hthrow]

/-- A body without exceptions has three phases. -/
theorem BodyOf.lines_of_exceptions_off {body : Body} (h : BodyOf s c m body)
    (hexc : s.exceptions = false) :
    body.lines s = body.callbackLocals.flatten ++ [body.callLine] ++ body.result := by
  -- every other phase hangs on the exceptions
  have hcontext : m.context? s = none := by simp [Member.context?, hexc]
  have hfailure : body.failure = none := by rw [h.failure, hcontext]; rfl
  simp [Body.lines, h.nullTests, h.context, h.rethrows, hfailure, hcontext, hexc,
    Body.nullCheckLines, Body.failureLines]

/-- Every phase of a body is tidy; those for failures need exceptions. -/
theorem tidy_bodyLines (hs : s.Tidy strict) (hc : c.Tidy strict) (hm : m.Tidy strict)
    {body : Body} (h : BodyOf s c m body) : (body.lines s).Tidy strict := by
  have hf := hm.function
  have hcallback : ∀ callback ∈ m.function.callbacks,
      TidyWord strict callback.1.name ∧ (CType.callback callback.2).Tidy strict := by
    intro callback hmem
    obtain ⟨hp, htype⟩ := mem_callbacks_iff.1 hmem
    have hp := hf.params callback.1 hp
    exact ⟨hp.name, htype ▸ hp.type⟩
  have hlocals : Code.Tidy strict body.callbackLocals.flatten := by
    refine Code.tidy_flatten (forall_mem_of_forall₂ h.callbackLocals ?_)
    intro callback hmem code hcode
    obtain ⟨hname, hsignature⟩ := hcallback callback hmem
    exact tidy_locals hs hname hsignature hcode
  have hcall : Balanced body.callLine ∧ (strict → Calm body.callLine) := by
    have hcallee := hf.name.tidyText
    have hargs := tidyText_of_callArgs hs hf h.args
    rw [h.callLine]
    simp +decide +contextual [Balanced, String.append_assoc, hcallee, hargs]
  have hresult := tidy_conversion hs hc hm h.result
  cases hexc : s.exceptions with
  | false =>
      rw [h.lines_of_exceptions_off hexc]
      simp +contextual [Code.Tidy, Code.Balanced, hlocals, hcall, hresult]
  | true =>
      refine Code.tidy_of_exceptions hs hexc ?_
      have hnull : (Body.nullCheckLines s body.nullTests).Balanced := by
        refine balanced_nullCheckLines hs ?_
        rw [h.nullTests, if_pos hexc]
        exact balanced_nullTests hf
      have hrethrows : Code.Tidy strict (body.rethrows.flatMap rethrowLines) := by
        rw [h.rethrows, if_pos hexc, List.flatMap_def]
        refine Code.tidy_flatten (List.forall_mem_map.2 (List.forall_mem_map.2 ?_))
        intro callback hmem
        have hname := (hcallback callback hmem).1.1.balanced
        exact Code.tidy_of_exceptions hs hexc (balanced_rethrowLines hname)
      unfold Body.lines
      rw [h.context, h.failure, context?_of_exceptions hexc]
      -- the scope and the failure check hang on the context
      cases hcontext : m.function.errorContext? m.kind with
      | none =>
          simp [Code.Balanced, Body.failureLines, hnull, hlocals, hcall, hrethrows, hresult]
      | some context =>
          obtain ⟨hexpr, hscope⟩ := balanced_scopeLines hs hf hcontext
          have hfailure := balanced_failureLines (f := m.function) hexpr
          simp [Code.Balanced, hnull, hscope, hlocals, hcall, hrethrows, hfailure, hresult]

theorem tidy_memberDefinition (hs : s.Tidy strict) (hc : c.Tidy strict) (hm : m.Tidy strict)
    (h : memberDefinition s c m = .ok code) : code.Tidy strict := by
  obtain ⟨signature, body, hsignature, hbody, rfl⟩ := memberDefinition_eq_ok_iff.1 h
  obtain ⟨htext, hlabel⟩ := hsignature.tidyLabel_text hs hc hm
  have hcalm : strict → Calm (signature.text (s.className c ++ "::")) :=
    fun hstrict => (hlabel hstrict).calm
  have hlines := tidy_bodyLines hs hc hm hbody
  simp +decide +contextual [Code.Tidy, Code.Balanced, definitionLines, htext, hcalm, hlines]

/-! ## The output -/

theorem tidy_classImplementation (hs : s.Tidy strict) (hc : c.Tidy strict)
    (h : classImplementation s c = .ok code) : code.Tidy strict := by
  obtain ⟨constructors, operators, methods, hparts, rfl⟩ := classImplementation_eq_ok_iff.1 h
  have hdefinition : ∀ m ∈ c.constructorMembers ++ c.methodMembers, ∀ code,
      memberDefinition s c m = .ok code → code.Tidy strict :=
    fun m hm code => tidy_memberDefinition hs hc (tidy_of_mem hc hm)
  obtain ⟨hconstructor, hmethod⟩ := List.forall_mem_append.1 hdefinition
  have hconstructors := forall_mem_of_forall₂ hparts.constructors hconstructor
  have hmethods := forall_mem_of_forall₂ hparts.methods hmethod
  obtain ⟨hpublic, hprotected, hassignment, hcontext⟩ := tidy_specialDefinitions hs hc
  have hpieces : ∀ piece ∈ implementationParts s c constructors operators methods,
      piece.Tidy strict := by
    simp only [implementationParts, List.forall_mem_append, List.forall_mem_cons]
    exact ⟨⟨⟨⟨tidy_factories hs hc, hpublic, hprotected, List.forall_mem_nil _⟩,
      hconstructors⟩, hassignment, tidy_destructor hs hc, tidy_pointerAccess hs hc,
      tidy_operators hs hc hparts.operators, tidy_textConversion hs hc,
      tidy_downcasts hs hc, hcontext, List.forall_mem_nil _⟩, hmethods⟩
  have hsections := Code.tidy_sections hpieces
  have hnames := tidy_names hs hc
  simp +decide +contextual [Code.Tidy, Code.Balanced, Settings.qualified, String.append_assoc,
    hsections, hnames]

theorem tidy_forwardDeclarations (hs : s.Tidy strict) (ht : ∀ c ∈ t.toList, c.Tidy strict) :
    (forwardDeclarations s t).Tidy strict := by
  have hclasses : Code.Tidy strict (t.toList.flatMap (forwardDeclaration s)) := by
    rw [List.flatMap_def]
    refine Code.tidy_flatten (List.forall_mem_map.2 fun c hc => ?_)
    have hnames := tidy_names hs (ht c hc)
    simp +decide +contextual [Code.Tidy, Code.Balanced, forwardDeclaration, String.append_assoc,
      hnames]
  simp +decide +contextual [Code.Tidy, Code.Balanced, forwardDeclarations, hclasses]

/-- **Everything between the opening and the closing lines of the output is tidy.** -/
theorem exists_tidy_of_header (hs : s.Tidy strict) (ht : ∀ c ∈ t.toList, c.Tidy strict)
    (h : header s t = .ok code) :
    ∃ inner : Code, inner.Tidy strict ∧ code = opening s ++ inner ++ closing s := by
  obtain ⟨declarations, implementations, hparts, rfl⟩ := header_eq_ok_iff.1 h
  have hdeclarations := Code.tidy_spaced <|
    forall_mem_of_forall₂ hparts.declarations fun c hc code =>
      tidy_classDeclaration hs (ht c hc)
  have himplementations := Code.tidy_spaced <|
    forall_mem_of_forall₂ hparts.implementations fun c hc code =>
      tidy_classImplementation hs (ht c hc)
  have hforward := tidy_forwardDeclarations hs ht
  refine ⟨forwardDeclarations s t ++ [""] ++ Code.spaced declarations ++ [""] ++
    Code.spaced implementations, ?_, by simp only [List.append_assoc]⟩
  simp +decide +contextual [Code.Tidy, Code.Balanced, hforward, hdeclarations, himplementations]

end HandleWrap
