import HandleWrap.Proofs.Acceptance
import HandleWrap.Proofs.Brackets
import HandleWrap.Proofs.ClassPasses
import HandleWrap.Proofs.Lines

set_option autoImplicit false

/-! # Tidy texts

Two results are about the whole output and follow from its parts: that its brackets match, for which
names must not bring one in, and that no line of it looks for a failure, for which names must be
words. The parts are gone through once for both, and `strict` says whether names have to be words. A
text is tidy if its brackets match and, with `strict`, it holds no line end; a type, which can stand
at the beginning of a line, begins with something else than a blank then (`tidyLabel_of_cpp`). The
lemmas follow the texts from the names up to signatures, arguments and trampolines. -/

namespace HandleWrap

/-! ## Texts -/

-- Conjunctions and no structures, so that the simplifier takes the halves as rules.

/-- A name: no bracket stands in it, and with `strict` nothing but what identifiers go on with. -/
abbrev TidyWord (strict : Prop) (text : String) : Prop :=
  BracketFree text ∧ (strict → IsWord text)

/-- The spelling of a plain type. -/
abbrev TidySpelling (strict : Prop) (text : String) : Prop :=
  BracketFree text ∧ (strict → IsSpelling text)

/-- A text inside a line. -/
abbrev TidyText (strict : Prop) (text : String) : Prop :=
  Balanced text ∧ (strict → OneLine text)

/-- A text that can stand at the beginning of a line. -/
abbrev TidyLabel (strict : Prop) (text : String) : Prop :=
  Balanced text ∧ (strict → Label text)

variable {strict : Prop} {a b name : String}

theorem TidyWord.tidyText (h : TidyWord strict a) : TidyText strict a :=
  ⟨h.1.balanced, fun hstrict => (h.2 hstrict).oneLine⟩

theorem TidySpelling.tidyLabel (h : TidySpelling strict a) : TidyLabel strict a :=
  ⟨h.1.balanced, fun hstrict => (h.2 hstrict).label⟩

theorem TidyLabel.tidyText (h : TidyLabel strict a) : TidyText strict a :=
  ⟨h.1, fun hstrict => (h.2 hstrict).oneLine⟩

theorem TidyText.append (ha : TidyText strict a) (hb : TidyText strict b) :
    TidyText strict (a ++ b) :=
  ⟨ha.1.append hb.1, fun hstrict => oneLine_append_iff.2 ⟨ha.2 hstrict, hb.2 hstrict⟩⟩

theorem TidyLabel.append (ha : TidyLabel strict a) (hb : TidyText strict b) :
    TidyLabel strict (a ++ b) :=
  ⟨ha.1.append hb.1, fun hstrict => (ha.2 hstrict).append (hb.2 hstrict)⟩

/-- A word may be empty, so it is the text behind it that makes it a label. -/
theorem TidyWord.tidyLabel_append (ha : TidyWord strict a) (hb : TidyLabel strict b) :
    TidyLabel strict (a ++ b) := by
  obtain ⟨hbalanced, hline⟩ := ha.tidyText.append hb.tidyText
  refine ⟨hbalanced, fun hstrict => ⟨hline hstrict, ?_⟩⟩
  exact (ha.2 hstrict).begins_append (hb.2 hstrict).begins

/-- A word is tidy whatever is asked of names. -/
theorem IsWord.tidyWord (h : IsWord a) : TidyWord strict a := by
  refine ⟨fun c hc => Bool.eq_false_iff.2 fun hbracket => ?_, fun _ => h⟩
  have hpart := h c hc
  rcases eq_of_isBracket hbracket with rfl | rfl | rfl | rfl | rfl | rfl
  all_goals
    revert hpart
    decide

theorem tidyText_literal {chars : List Char} (h : readChars? [] chars = some [] ∧ '\n' ∉ chars) :
    TidyText strict (no_index (String.ofList chars)) :=
  ⟨balanced_literal h.1, fun _ => oneLine_literal h.2⟩

theorem tidyLabel_literal {first : Char} {rest : List Char}
    (h : readChars? [] (first :: rest) = some [] ∧ '\n' ∉ first :: rest ∧ first ≠ ' ') :
    TidyLabel strict (no_index (String.ofList (first :: rest))) :=
  ⟨balanced_literal h.1, fun _ => label_literal h.2.1 h.2.2⟩

theorem tidyText_arguments {items : List String} (h : ∀ item ∈ items, TidyText strict item) :
    TidyText strict (", ".intercalate items) :=
  intercalate_of_append (tidyText_literal (by decide)) TidyText.append
    (tidyText_literal (by decide)) h

/-! ## Descriptions -/

/-- A type whose names are tidy. A type of no known shape may have any spelling: it stands in no
    output. -/
inductive CType.Tidy (strict : Prop) : CType → Prop where
  | handle {name : String} (h : TidyWord strict name) : Tidy strict (.handle name)
  | context : Tidy strict .context
  | bool : Tidy strict .bool
  | stat : Tidy strict .stat
  | enumeration {name : String} (h : TidySpelling strict name) : Tidy strict (.enumeration name)
  | integer {name : String} (h : TidySpelling strict name) : Tidy strict (.integer name)
  | string : Tidy strict .string
  | callback {signature : Callback} (hresult : signature.result.Tidy strict)
      (hargs : ∀ arg ∈ signature.args, arg.type.Tidy strict) : Tidy strict (.callback signature)
  | userData : Tidy strict .userData
  | other (spelling : String) : Tidy strict (.other spelling)

structure Param.Tidy (strict : Prop) (p : Param) : Prop where
  name : TidyWord strict p.name
  type : p.type.Tidy strict

structure CFunction.Tidy (strict : Prop) (f : CFunction) : Prop where
  name : TidyWord strict f.name
  returnType : f.returnType.Tidy strict
  params : ∀ p ∈ f.params, p.Tidy strict

/-- A class whose names are tidy, down to those of its parameters. -/
structure ObjectClass.Tidy (strict : Prop) (c : ObjectClass) : Prop where
  name : TidyWord strict c.name
  subclassName : ∀ sub ∈ c.subclassName, TidyWord strict sub
  typeTagAccessor : ∀ f ∈ c.typeTagAccessor, f.Tidy strict
  equality : ∀ f ∈ c.equality, f.Tidy strict
  stringify : ∀ f ∈ c.stringify, f.Tidy strict
  constructors : ∀ f ∈ c.constructors, f.Tidy strict
  methods : ∀ group ∈ c.methods.entries, TidyWord strict group.1 ∧ ∀ f ∈ group.2, f.Tidy strict

/-- A function of a class with its public name. -/
structure Member.Tidy (strict : Prop) (m : Member) : Prop where
  name : TidyWord strict m.name
  function : m.function.Tidy strict

/-- Settings whose names are tidy. What lines begin with is looked at only where nothing throws. -/
structure Settings.Tidy (strict : Prop) (s : Settings) : Prop where
  targetNamespace : TidyWord strict s.targetNamespace
  begins : strict → Begins s.targetNamespace
  quietNamespace : TidyWord strict s.quietNamespace
  cPrefix : TidyWord strict s.cPrefix
  renames : ∀ rename ∈ s.renames.entries, TidyWord strict rename.2
  exceptions : strict → s.exceptions = false

variable {s : Settings} {c : ObjectClass} {m : Member} {f : CFunction} {p : Param}

theorem tidy_of_mem (hc : c.Tidy strict) (hm : m ∈ c.constructorMembers ++ c.methodMembers) :
    m.Tidy strict := by
  rcases List.mem_append.1 hm with hm | hm
  · obtain ⟨f, hf, rfl⟩ := List.mem_map.1 hm
    exact ⟨(hc.constructors f hf).name, hc.constructors f hf⟩
  · obtain ⟨group, hgroup, hm⟩ := List.mem_flatMap.1 hm
    obtain ⟨f, hf, rfl⟩ := List.mem_map.1 hm
    obtain ⟨hname, hfunctions⟩ := hc.methods group hgroup
    exact ⟨hname, hfunctions f hf⟩

/-! ## Names -/

theorem tidyLabel_targetNamespace (hs : s.Tidy strict) : TidyLabel strict s.targetNamespace :=
  ⟨hs.targetNamespace.1.balanced,
    fun hstrict => ⟨(hs.targetNamespace.2 hstrict).oneLine, hs.begins hstrict⟩⟩

theorem tidyWord_renamed (hs : s.Tidy strict) (hname : TidyWord strict name) :
    TidyWord strict (s.renamed name) := by
  unfold Settings.renamed
  cases htarget : s.renames.get? name with
  | none => exact hname
  | some target => exact hs.renames _ (s.renames.get?_eq_some_iff.1 htarget)

theorem tidyWord_stripped (hname : TidyWord strict name) : TidyWord strict (s.stripped name) :=
  ⟨fun c hc => hname.1 c (Settings.mem_of_mem_stripped hc),
    fun hstrict c hc => hname.2 hstrict c (Settings.mem_of_mem_stripped hc)⟩

theorem tidyWord_key (hc : c.Tidy strict) : TidyWord strict c.key := by
  unfold ObjectClass.key
  cases hsub : c.subclassName with
  | none => exact hc.name
  | some sub => exact hc.subclassName sub hsub

theorem tidyWord_className (hc : c.Tidy strict) : TidyWord strict (s.className c) :=
  tidyWord_stripped (tidyWord_key hc)

theorem tidyWord_methodName (hf : f.Tidy strict) : TidyWord strict (c.methodName f) :=
  ⟨fun x hx => hf.name.1 x (ObjectClass.mem_of_mem_methodName hx),
    fun hstrict x hx => hf.name.2 hstrict x (ObjectClass.mem_of_mem_methodName hx)⟩

theorem tidyText_rawArgName (i : Nat) : TidyText strict (rawArgName i) := by
  have hword : IsWord (toString i) := fun c hc => by
    have hdigit := Nat.isDigit_of_mem_toDigits (by decide) (by decide) (Nat.toList_repr ▸ hc)
    exact isIdentifierPart_iff.2 (Or.inr hdigit)
  exact (tidyText_literal (by decide)).append hword.tidyWord.tidyText

/-! ## Types -/

theorem tidyLabel_qualified (hs : s.Tidy strict) (hname : TidyText strict name) :
    TidyLabel strict (s.qualified name) :=
  ((tidyLabel_targetNamespace hs).append (tidyText_literal (by decide))).append hname

theorem tidyLabel_rawContext (hs : s.Tidy strict) : TidyLabel strict s.rawContext := by
  have hctx : TidyLabel strict "ctx" := tidyLabel_literal (by decide)
  exact (hs.cPrefix.tidyLabel_append hctx).append (tidyText_literal (by decide))

theorem tidyLabel_enumType (hs : s.Tidy strict) (hname : TidySpelling strict name) :
    TidyLabel strict (s.enumType name) := by
  have hscope : BracketFree "::" := bracketFree_literal (by decide)
  have hnew : TidyLabel strict (s.targetNamespace ++ "::") :=
    (tidyLabel_targetNamespace hs).append (tidyText_literal (by decide))
  have hnewFree : BracketFree (s.targetNamespace ++ "::") := hs.targetNamespace.1.append hscope
  have hfree : BracketFree (s.enumType name) :=
    fun c hc => (Settings.mem_enumType hc).elim (hnewFree c) (hname.1 c)
  refine ⟨hfree.balanced, fun hstrict => ⟨fun hmem => ?_, ?_⟩⟩
  · exact (Settings.mem_enumType hmem).elim (hnew.2 hstrict).oneLine (hname.2 hstrict).oneLine
  · obtain ⟨first, rest, htext, hfirst⟩ := (hname.2 hstrict).begins
    obtain ⟨newFirst, newRest, hnewText, hnewFirst⟩ := (hnew.2 hstrict).begins
    rw [Settings.enumType, htext, hnewText, Text.replaceLeftmost]
    -- what comes first is the namespace if the prefix stands there, else the name
    split
    · exact begins_literal hnewFirst
    · exact begins_literal hfirst

theorem tidyLabel_boolType (hs : s.Tidy strict) : TidyLabel strict s.boolType := by
  unfold Settings.boolType
  split
  · exact tidyLabel_literal (by decide)
  · exact tidyLabel_qualified hs (tidyText_literal (by decide))

theorem tidyLabel_statType (hs : s.Tidy strict) : TidyLabel strict s.statType := by
  unfold Settings.statType
  split
  · exact tidyLabel_literal (by decide)
  · exact tidyLabel_qualified hs (tidyText_literal (by decide))

theorem tidyLabel_handleType (hs : s.Tidy strict) (hname : TidyWord strict name) :
    TidyLabel strict (s.handleType name) :=
  tidyLabel_qualified hs (tidyWord_stripped hname).tidyText

/-- The C++ counterpart of a type can stand at the beginning of a line, however deep its callbacks
    nest. -/
theorem tidyLabel_of_cpp (hs : s.Tidy strict) {type : CType} (htype : type.Tidy strict)
    {text : String} (h : type.cpp s = .ok text) : TidyLabel strict text := by
  induction type using CType.inductionOn generalizing text with
  | plain type hplain =>
      cases htype with
      | callback => cases hplain
      | userData => cases h
      | other => cases h
      | handle hname => cases h; exact tidyLabel_handleType hs hname
      | bool => cases h; exact tidyLabel_boolType hs
      | stat => cases h; exact tidyLabel_statType hs
      | integer hname => cases h; exact hname.tidyLabel
      | string => cases h; exact tidyLabel_literal (by decide)
      | context =>
          cases h
          split
          · exact tidyLabel_qualified hs (tidyText_literal (by decide))
          · exact tidyLabel_rawContext hs
      | enumeration hname =>
          cases h
          split
          · exact tidyLabel_enumType hs hname
          · exact hname.tidyLabel
  | callback signature hresult hargs =>
      cases htype with
      | callback htidyResult htidyArgs =>
          rw [CType.cpp] at h
          obtain ⟨result, args, hresultText, hargTexts, rfl⟩ := Callback.cpp_eq_ok_iff.1 h
          have hresult := (hresult htidyResult hresultText).tidyText
          have hlist : TidyText strict (", ".intercalate args) := by
            refine tidyText_arguments ?_
            refine forall_mem_of_forall₂ hargTexts fun arg harg text htext => ?_
            have hmem := Callback.mem_args_of_mem_publicArgs harg
            exact (hargs arg hmem (htidyArgs arg hmem) htext).tidyText
          have hfunction : Label "std::function<" := label_literal (by decide) (by decide)
          refine ⟨by simp +decide [Balanced, hresult, hlist], fun hstrict => ?_⟩
          simp only [String.append_assoc]
          exact hfunction.append (by simp +decide [hresult, hlist, hstrict])

theorem tidyText_declared {type : String} (htype : TidyText strict type)
    (hname : TidyText strict name) : TidyText strict (declared type name) := by
  unfold declared
  split
  · exact htype.append hname
  · exact (htype.append (tidyText_literal (by decide))).append hname

/-- The spelling in C of a type that stands in some output. -/
theorem tidyText_of_inC (hs : s.Tidy strict) {type : CType} (htype : type.Tidy strict)
    (hshape : type.Translatable ∨ type.isUserData = true) {text : String}
    (h : type.inC s = .ok text) : TidyText strict text := by
  cases htype with
  | other spelling =>
      rcases hshape with htranslatable | hdata
      · cases htranslatable
      · cases hdata
  | callback => cases h
  | handle hname => cases h; exact hname.tidyText.append (tidyText_literal (by decide))
  | context => cases h; exact (tidyLabel_rawContext hs).tidyText
  | bool => cases h; exact hs.cPrefix.tidyText.append (tidyText_literal (by decide))
  | stat => cases h; exact hs.cPrefix.tidyText.append (tidyText_literal (by decide))
  | enumeration hname => cases h; exact hname.tidyLabel.tidyText
  | integer hname => cases h; exact hname.tidyLabel.tidyText
  | string => cases h; exact tidyText_literal (by decide)
  | userData => cases h; exact tidyText_literal (by decide)

/-! ## Signatures -/

theorem tidyText_declaration (hs : s.Tidy strict) (hp : p.Tidy strict) {text : String}
    (h : p.declaration s = .ok text) : TidyText strict text := by
  obtain ⟨_, type, hcpp, rfl⟩ := declaration_eq_ok_iff.1 h
  have htype := (tidyLabel_of_cpp hs hp.type hcpp).tidyText
  have hname := hp.name.tidyText
  split
  · exact tidyText_declared htype hname
  · simp +decide +contextual [TidyText, Balanced, htype, hname]

/-- The C++ result type of a method. -/
theorem tidyLabel_returnType (hs : s.Tidy strict) (hc : c.Tidy strict) (hf : f.Tidy strict)
    {type : String} {narrowed : Bool} (h : s.returnType c f = .ok (type, narrowed)) :
    TidyLabel strict type := by
  rcases view_or_cpp_of_returnType h with rfl | hcpp
  · exact tidyLabel_handleType hs (tidyWord_key hc)
  · exact tidyLabel_of_cpp hs hf.returnType hcpp

theorem tidyText_publicName (hs : s.Tidy strict) (hc : c.Tidy strict) (hm : m.Tidy strict) :
    TidyText strict (s.publicName c m) := by
  unfold Settings.publicName
  split
  · exact (tidyWord_className hc).tidyText
  · exact (tidyWord_renamed hs hm.name).tidyText

namespace SignatureOf

variable {signature : Signature}

/-- What stands in front of the name: nothing or a type. -/
theorem lead_cases (h : SignatureOf s c m signature) (hs : s.Tidy strict) (hc : c.Tidy strict)
    (hm : m.Tidy strict) : signature.lead = "" ∨ TidyLabel strict signature.lead := by
  rcases h.lead_eq with ⟨_, hempty⟩ | ⟨_, type, narrowed, htype, hlead⟩
  · exact Or.inl hempty
  · rw [hlead]
    have htype := tidyLabel_returnType hs hc hm.function htype
    exact Or.inr (htype.append (tidyText_literal (by decide)))

theorem tidyText_tail (h : SignatureOf s c m signature) (hs : s.Tidy strict) (hc : c.Tidy strict)
    (hm : m.Tidy strict) : TidyText strict signature.tail := by
  have hname : TidyText strict signature.name := h.name ▸ tidyText_publicName hs hc hm
  have hlist : TidyText strict (", ".intercalate signature.params) := by
    refine tidyText_arguments (forall_mem_of_forall₂ h.params fun p hp text htext => ?_)
    have hp := hm.function.params p (mem_params_of_mem_visibleParams hp)
    exact tidyText_declaration hs hp htext
  unfold Signature.tail
  split
  all_goals simp +decide +contextual [TidyText, Balanced, hname, hlist]

/-- The signature as a declaration has it. -/
theorem tidyText_text (h : SignatureOf s c m signature) (hs : s.Tidy strict) (hc : c.Tidy strict)
    (hm : m.Tidy strict) : TidyText strict (signature.text "") := by
  rw [Signature.text_eq, String.append_empty]
  refine TidyText.append ?_ (h.tidyText_tail hs hc hm)
  rcases h.lead_cases hs hc hm with hempty | hlead
  · rw [hempty]
    exact tidyText_literal (by decide)
  · exact hlead.tidyText

/-- The signature as a definition has it, at the beginning of a line. -/
theorem tidyLabel_text (h : SignatureOf s c m signature) (hs : s.Tidy strict) (hc : c.Tidy strict)
    (hm : m.Tidy strict) : TidyLabel strict (signature.text (s.className c ++ "::")) := by
  have hscope : TidyLabel strict (s.className c ++ "::") :=
    (tidyWord_className hc).tidyLabel_append (tidyLabel_literal (by decide))
  rw [Signature.text_eq]
  refine TidyLabel.append ?_ (h.tidyText_tail hs hc hm)
  rcases h.lead_cases hs hc hm with hempty | hlead
  · rwa [hempty, String.empty_append]
  · exact hlead.append hscope.tidyText

end SignatureOf

/-! ## Expressions -/

theorem tidyText_booleanToC (hs : s.Tidy strict) {expr : String} (hexpr : TidyText strict expr) :
    TidyText strict (s.booleanToC expr) := by
  have hprefix := hs.cPrefix.tidyText
  simp +decide +contextual [TidyText, Balanced, Settings.booleanToC, Settings.cName, hprefix, hexpr]

theorem tidyText_boolToC (hs : s.Tidy strict) {expr : String} (hexpr : TidyText strict expr) :
    TidyText strict (s.boolToC expr) := by
  have hprefix := hs.cPrefix.tidyText
  simp +decide +contextual [TidyText, Balanced, Settings.boolToC, Settings.cName, hprefix, hexpr]

theorem tidyText_handleUse {source : Source} {ownership : Ownership}
    (hname : TidyText strict name) : TidyText strict (handleUse source name ownership) := by
  have hcall : ∀ access : Access, TidyText strict access.call := by
    intro access
    cases access <;> exact tidyText_literal (by decide)
  cases source with
  | receiver => exact hcall _
  | argument => exact (hname.append (tidyText_literal (by decide))).append (hcall _)

/-- The expressions that hand a parameter on. -/
theorem tidyText_of_uses (hs : s.Tidy strict) (hp : p.Tidy strict) {source : Source}
    {texts : List String} (h : p.uses s source = .ok texts) :
    ∀ text ∈ texts, TidyText strict text := by
  obtain ⟨name, type, ownership⟩ := p
  have hname : TidyText strict name := hp.name.tidyText
  have htype : type.Tidy strict := hp.type
  cases htype with
  | stat => cases h
  | userData => cases h
  | other => cases h
  | handle => cases h; exact List.forall_mem_singleton.2 (tidyText_handleUse hname)
  | integer => cases h; exact List.forall_mem_singleton.2 hname
  | context =>
      cases h
      refine List.forall_mem_singleton.2 ?_
      split
      · exact tidyText_handleUse hname
      · exact hname
  | enumeration hspelling =>
      cases h
      have hcast := hspelling.tidyLabel.tidyText
      refine List.forall_mem_singleton.2 ?_
      split
      · simp +decide +contextual [TidyText, Balanced, hcast, hname]
      · exact hname
  | string =>
      cases h
      exact List.forall_mem_singleton.2 (hname.append (tidyText_literal (by decide)))
  | bool =>
      cases h
      refine List.forall_mem_singleton.2 ?_
      split
      · exact tidyText_boolToC hs hname
      · exact tidyText_booleanToC hs hname
  | callback =>
      cases h
      simp +decide +contextual [TidyText, Balanced, callbackUses, trampolineName, holderName, hname]

/-- What is passed to the C function. -/
theorem tidyText_of_callArgs (hs : s.Tidy strict) (hf : f.Tidy strict) {kind : MethodKind}
    {args : List String} (h : f.callArgs s kind = .ok args) :
    TidyText strict (", ".intercalate args) := by
  refine tidyText_arguments (forall_mem_of_callArgs h fun p hp source uses huses => ?_)
  exact tidyText_of_uses hs (hf.params p hp) huses

theorem tidyText_converted {type expr : String} (htype : TidyText strict type)
    (hexpr : TidyText strict expr) : TidyText strict (converted type expr) := by
  unfold converted
  split
  all_goals simp +decide +contextual [TidyText, Balanced, htype, hexpr]

/-! ## Callbacks -/

/-- In a callback that can be adapted every raw argument has a spelling of its own. -/
theorem translatable_or_userData {signature : Callback} (hends : signature.endsInUserData = true)
    (hadaptable : signature.Adaptable) {arg : CallbackArg} (harg : arg ∈ signature.args) :
    arg.type.Translatable ∨ arg.type.isUserData = true := by
  obtain ⟨data, hdata, hargs⟩ := Callback.args_of_endsInUserData hends
  rw [hargs] at harg
  rcases List.mem_append.1 harg with harg | harg
  · exact Or.inl (CType.translatable_of_reachesClosure (hadaptable.args arg harg))
  · rw [List.mem_singleton.1 harg]
    exact Or.inr hdata

theorem tidyText_of_closureArg (hs : s.Tidy strict) {i : Nat} {arg : CallbackArg}
    (harg : arg.type.Tidy strict) {text : String}
    (h : Callback.closureArg s name i arg = .ok text) : TidyText strict text := by
  have hraw : TidyText strict (rawArgName i) := tidyText_rawArgName i
  obtain ⟨type, ownership⟩ := arg
  have htype : type.Tidy strict := harg
  cases htype with
  | bool => cases h
  | stat => cases h
  | callback => cases h
  | userData => cases h
  | other => cases h
  | integer => cases h; exact hraw
  | string => cases h; exact hraw
  | handle =>
      cases h
      have hfactory : TidyText strict (wrapFactory ownership) := by
        cases ownership <;> exact tidyText_literal (by decide)
      have hqualified := (tidyLabel_qualified hs hfactory).tidyText
      simp +decide +contextual [TidyText, Balanced, hqualified, hraw]
  | context =>
      cases h
      split
      · have hctx : TidyText strict "ctx" := tidyText_literal (by decide)
        have hqualified := (tidyLabel_qualified hs hctx).tidyText
        simp +decide +contextual [TidyText, Balanced, hqualified, hraw]
      · exact hraw
  | enumeration hspelling =>
      cases h
      split
      · have hcast := (tidyLabel_enumType hs hspelling).tidyText
        simp +decide +contextual [TidyText, Balanced, hcast, hraw]
      · exact hraw

/-- What a trampoline returns in C. -/
theorem tidyText_outcome (hs : s.Tidy strict) (outcome : Outcome) :
    TidyText strict (outcome.success s) ∧ TidyText strict (outcome.failure s) ∧
      TidyText strict (outcome.converted s) := by
  have hprefix := hs.cPrefix.tidyText
  have hret : TidyText strict "ret" := tidyText_literal (by decide)
  have hbool := tidyText_boolToC hs hret
  have hboolean := tidyText_booleanToC hs hret
  cases outcome
  all_goals
    simp +decide +contextual [TidyText, Balanced, Outcome.success, Outcome.failure,
      Outcome.converted, Settings.cName, hprefix, hbool, hboolean]

/-- The texts that a trampoline is put together from. -/
structure Trampoline.Tidy (strict : Prop) (trampoline : Trampoline) : Prop where
  name : TidyWord strict trampoline.name
  params : TidyText strict (", ".intercalate trampoline.params)
  result : TidyText strict trampoline.result
  closureArgs : TidyText strict (", ".intercalate trampoline.closureArgs)

theorem tidy_trampoline (hs : s.Tidy strict) {signature : Callback}
    (hsignature : (CType.callback signature).Tidy strict) (hname : TidyWord strict name)
    {trampoline : Trampoline} (h : signature.trampoline s name = .ok trampoline) :
    trampoline.Tidy strict := by
  -- a raw argument of no known shape has not come through the adapter
  obtain ⟨_, _, hclosure, htells⟩ := (succeeds_trampoline_iff s name signature).1 ⟨_, h⟩
  obtain ⟨rfl, hends, hparams, hresultText, hclosureArgs, _⟩ := trampoline_eq_ok_iff.1 h
  have hadaptable : signature.Adaptable :=
    ⟨htells, (succeeds_closureArgs_iff s _ signature).1 hclosure⟩
  cases hsignature with
  | callback hresult hargs =>
      have hparam : ∀ param ∈ trampoline.params, TidyText strict param := by
        refine forall_mem_of_forall₂ hparams fun x hx text htext => ?_
        obtain ⟨spelling, hspelling, rfl⟩ := declaredInC_eq_ok_iff.1 htext
        have harg := List.fst_mem_of_mem_zipIdx hx
        have hshape := translatable_or_userData hends hadaptable harg
        exact tidyText_declared (tidyText_of_inC hs (hargs _ harg) hshape hspelling)
          (tidyText_rawArgName _)
      have hclosureArg : ∀ arg ∈ trampoline.closureArgs, TidyText strict arg := by
        refine forall_mem_of_forall₂ hclosureArgs fun x hx text htext => ?_
        have harg := Callback.mem_args_of_mem_publicArgs (List.fst_mem_of_mem_zipIdx hx)
        exact tidyText_of_closureArg hs (hargs _ harg) htext
      have htranslatable := CType.translatable_of_tellsFailure htells
      exact ⟨hname, tidyText_arguments hparam,
        tidyText_of_inC hs hresult (Or.inl htranslatable) hresultText,
        tidyText_arguments hclosureArg⟩

end HandleWrap
