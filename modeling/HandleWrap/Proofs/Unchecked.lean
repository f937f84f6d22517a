import HandleWrap.Proofs.TableAcceptance
import HandleWrap.Proofs.TidyCode
import HandleWrap.Proofs.WellSpelled

set_option autoImplicit false

/-! # No checks without exceptions

Without exceptions nothing in the output looks for a failure or reports one: no line of it begins
like a check, and the definition of a member is its call with the locals of its callbacks in front
and the conversion of the result behind (`unchecked_of_exceptions_off`). That names and spellings
cannot make a check of a line is known from `WellSpelled`, and what is left to look at is the frame
of the output (`allCalm_frame`). -/

namespace HandleWrap

variable {s : Settings} {t : ClassTable} {c : ObjectClass} {m : Member}

/-! ## Members -/

/-- What a definition consists of where nothing is checked: the signature, the locals of the
    callbacks in order, the call and what becomes of the result. -/
inductive PlainDefinition (s : Settings) (c : ObjectClass) (m : Member) : Code → Prop where
  | intro {signature : Signature} {locals : List Code} {args : List String} {result : Code}
      (hsignature : s.signature c m = .ok signature)
      (hlocals : List.Forall₂ (fun callback code => callback.2.locals s callback.1.name = .ok code)
        m.function.callbacks locals)
      (hargs : m.function.callArgs s m.kind = .ok args)
      (hresult : m.conversion s c = .ok result) :
      PlainDefinition s c m
        ([signature.text (s.className c ++ "::"), r"{"] ++ locals.flatten ++
          ["  auto res = " ++ m.function.name ++ "(" ++ ", ".intercalate args ++ ");"] ++ result ++
          [r"}"])

theorem plainDefinition_of_memberDefinition (hexc : s.exceptions = false) {code : Code}
    (h : memberDefinition s c m = .ok code) : PlainDefinition s c m code := by
  obtain ⟨signature, body, hsignature, hbody, rfl⟩ := memberDefinition_eq_ok_iff.1 h
  have hplain := PlainDefinition.intro (signature_eq_ok_iff.2 hsignature) hbody.callbackLocals
    hbody.args hbody.result
  rw [definitionLines, hbody.lines_of_exceptions_off hexc, hbody.callLine]
  simpa only [List.append_assoc] using hplain

/-! ## The frame -/

theorem allCalm_frame (hs : s.WellSpelled) (hexc : s.exceptions = false) :
    AllCalm (opening s) ∧ AllCalm (closing s) := by
  obtain ⟨htarget, hquiet, _⟩ := identifiers_of_problem? hs.usable
  have htarget := (isWord_of_isIdentifier htarget).oneLine
  have hquiet := (isWord_of_isIdentifier hquiet).oneLine
  have hinclude : AllCalm (s.includes.map includeLine) := by
    refine List.forall_mem_map.2 fun header hheader => ?_
    have hline := hs.includes header hheader
    unfold includeLine
    split
    all_goals simp +decide [String.append_assoc, hline]
  cases hguard : s.headerGuard with
  | none =>
      simp +decide [opening, closing, String.append_assoc, hguard, hinclude, hexc, htarget, hquiet]
  | some guard =>
      have hline := hs.headerGuard guard hguard
      simp +decide [opening, closing, String.append_assoc, hguard, hinclude, hexc, htarget, hquiet,
        hline]

/-! ## Nothing is checked -/

/-- The settings of the flavour that does not throw. -/
def Settings.quiet : Settings :=
  { Settings.standard with exceptions := false }

theorem quiet_wellSpelled : Settings.quiet.WellSpelled where
  usable := by decide
  cPrefix := isWord_of_isIdentifier (by decide)
  headerGuard guard h := by cases h
  includes header h := by cases h

theorem foreachMap_wellSpelled : foreachMap.function.WellSpelled := by
  have hargs : ∀ arg ∈ [⟨.handle "isl_map", .take⟩, ⟨.userData, .keep⟩],
      (CallbackArg.type arg).WellSpelled := by
    simp only [List.forall_mem_cons]
    exact ⟨.handle (by decide), .userData, List.forall_mem_nil _⟩
  refine ⟨by decide, .stat, ?_⟩
  simp only [foreachMap, List.forall_mem_cons]
  exact ⟨⟨by decide, .handle (by decide)⟩, ⟨by decide, .callback .stat hargs⟩,
    ⟨by decide, .userData⟩, List.forall_mem_nil _⟩

theorem unionMap_wellSpelled : unionMap.WellSpelled where
  name := by decide
  subclassName sub h := by cases h
  typeTagAccessor f h := by cases h
  equality f h := by cases h
  stringify f h := by cases h
  constructors := List.forall_mem_nil _
  methods := by
    have hentries : unionMap.methods.entries = [(foreachMap.name, [foreachMap.function])] := rfl
    rw [hentries, List.forall_mem_singleton, List.forall_mem_singleton]
    exact ⟨by decide, foreachMap_wellSpelled⟩

/-- **Without exceptions the output checks nothing:** with identifiers for names, no line of it
    begins like a check, and the definition of every member stands in it and is plain. -/
theorem unchecked_of_exceptions_off (hs : s.WellSpelled) (hexc : s.exceptions = false)
    (ht : ∀ c ∈ t.toList, c.WellSpelled) {text : String} (h : generate s t = .ok text) :
    (∀ line ∈ linesOf text, ∀ start ∈ checkStarts, ¬ start.toList <+: line) ∧
      ∀ c ∈ t.toList, ∀ m ∈ c.constructorMembers ++ c.methodMembers,
        ∃ code before after, memberDefinition s c m = .ok code ∧ PlainDefinition s c m code ∧
          text = before ++ code.render ++ after := by
  obtain ⟨lines, hlines, rfl⟩ := generate_eq_ok_iff.1 h
  have hcalm : AllCalm lines := by
    obtain ⟨inner, htidy, hinner⟩ :=
      exists_tidy_of_header (hs.tidy hexc) (fun c hc => (ht c hc).tidy) hlines
    obtain ⟨hopening, hclosing⟩ := allCalm_frame hs hexc
    rw [hinner, allCalm_append_iff, allCalm_append_iff]
    exact ⟨⟨hopening, htidy.2 trivial⟩, hclosing⟩
  refine ⟨?_, fun c hc m hm => ?_⟩
  · rw [linesOf_render fun line hline => (hcalm line hline).oneLine]
    intro chars hchars
    rcases List.mem_append.1 hchars with hline | hempty
    · obtain ⟨line, hmem, rfl⟩ := List.mem_map.1 hline
      exact (hcalm line hmem).unchecked
    · -- behind the last line end there is nothing
      rw [List.mem_singleton.1 hempty]
      exact calm_empty.unchecked
  · obtain ⟨code, hcode, hinfix⟩ := definition_infix_header hlines hc hm
    obtain ⟨before, after, htext⟩ := Code.exists_render_of_infix hinfix
    exact ⟨code, before, after, hcode, plainDefinition_of_memberDefinition hexc hcode, htext⟩

theorem unchecked_of_exceptions_off_unionMap :
    ∃ t text, ClassTable.ofClasses [unionMap] = .ok t ∧
      Settings.quiet.exceptions = false ∧ generate .quiet t = .ok text ∧
      (∀ line ∈ linesOf text, ∀ start ∈ checkStarts, ¬ start.toList <+: line) ∧
      ∃ code before after, memberDefinition .quiet unionMap foreachMap = .ok code ∧
        PlainDefinition .quiet unionMap foreachMap code ∧
        text = before ++ code.render ++ after := by
  obtain ⟨t, text, ht, htext⟩ : ∃ t text, ClassTable.ofClasses [unionMap] = .ok t ∧
      generate .quiet t = .ok text := ⟨_, _, rfl, rfl⟩
  have hperm := (holds_of_ofClasses ht).perm
  have hspelled : ∀ c ∈ t.toList, c.WellSpelled := by
    intro c hc
    rw [List.mem_singleton.1 (hperm.mem_iff.1 hc)]
    exact unionMap_wellSpelled
  have hmem : unionMap ∈ t.toList := hperm.mem_iff.2 List.mem_cons_self
  have hmember : foreachMap ∈ unionMap.constructorMembers ++ unionMap.methodMembers := by
    have hmembers : unionMap.constructorMembers ++ unionMap.methodMembers = [foreachMap] := rfl
    rw [hmembers]
    exact List.mem_cons_self
  obtain ⟨hlines, hdefinitions⟩ := unchecked_of_exceptions_off quiet_wellSpelled rfl hspelled htext
  exact ⟨t, text, ht, rfl, htext, hlines, hdefinitions unionMap hmem foreachMap hmember⟩

end HandleWrap
