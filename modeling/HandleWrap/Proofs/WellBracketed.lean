import HandleWrap.Proofs.TableAcceptance
import HandleWrap.Proofs.TidyCode
import HandleWrap.Proofs.Unbracketed

set_option autoImplicit false

/-! # Well-bracketed output

The brackets of the output match (`generate_wellBracketed`). Each part of the output closes the
brackets that it opens, in all positions of a class and in both flavours; the lines in front of them
open the blocks of the namespaces, and those behind close them (`exists_unclosed?_opening`). -/

namespace HandleWrap

variable {s : Settings} {t : ClassTable}

/-! ## The frame -/

theorem balanced_includeLine {header : String} (hheader : Balanced header) :
    Balanced (includeLine header) := by
  unfold includeLine
  split
  all_goals simp +decide [Balanced, hheader]

/-- The lines in front open the blocks of the namespaces, and those at the end close them. -/
theorem exists_unclosed?_opening (hs : s.Unbracketed) (expected : List Char) :
    ∃ blocks, Code.unclosed? expected (opening s) = some (blocks ++ expected) ∧
      Code.unclosed? (blocks ++ expected) (closing s) = some expected := by
  have hincludes : Code.Balanced (s.includes.map includeLine) :=
    Code.balanced_of_forall (List.forall_mem_map.2 fun header hheader =>
      balanced_includeLine (hs.includes header hheader).balanced)
  have htarget := hs.targetNamespace.balanced
  have hquiet := hs.quietNamespace.balanced
  unfold opening closing
  cases hguard : s.headerGuard with
  | none =>
      cases s.exceptions with
      | true => exact ⟨['}'], by simp +decide [hincludes, htarget]⟩
      | false => exact ⟨['}', '}'], by simp +decide [hincludes, htarget, hquiet]⟩
  | some guard =>
      have hguard := (hs.headerGuard guard hguard).balanced
      cases s.exceptions with
      | true => exact ⟨['}'], by simp +decide [hincludes, hguard, htarget]⟩
      | false => exact ⟨['}', '}'], by simp +decide [hincludes, hguard, htarget, hquiet]⟩

/-! ## Brackets match -/

/-- **The brackets of the output match,** provided that the names and spellings bring in none: they
    are a Dyck word. -/
theorem generate_wellBracketed (hs : s.Unbracketed) (ht : ∀ c ∈ t.toList, c.Unbracketed)
    {text : String} (h : generate s t = .ok text) : Dyck (text.toList.filter isBracket) := by
  obtain ⟨lines, hlines, rfl⟩ := generate_eq_ok_iff.1 h
  obtain ⟨inner, ⟨hbalanced, _⟩, rfl⟩ :=
    exists_tidy_of_header hs.tidy (fun c hc => (ht c hc).tidy) hlines
  obtain ⟨blocks, hopening, hclosing⟩ := exists_unclosed?_opening hs []
  have hread : unclosed? [] (opening s ++ inner ++ closing s).render = some [] := by
    rw [Code.unclosed?_render, Code.unclosed?_append, Code.unclosed?_append, hopening,
      Option.bind_some, hbalanced, Option.bind_some, hclosing]
  exact dyck_iff.2 hread

theorem standard_unbracketed : Settings.standard.Unbracketed where
  targetNamespace := bracketFree_literal (by decide)
  quietNamespace := bracketFree_literal (by decide)
  cPrefix := bracketFree_literal (by decide)
  renames := by
    have hentries : Settings.standard.renames.entries =
        [("delete", "del"), ("union", "unite")] := rfl
    rw [hentries, List.forall_mem_cons, List.forall_mem_singleton]
    exact ⟨bracketFree_literal (by decide), bracketFree_literal (by decide)⟩
  headerGuard guard h := by cases h
  includes header h := by cases h

theorem foreachMap_unbracketed : foreachMap.function.Unbracketed := by
  have hargs : ∀ arg ∈ [⟨.handle "isl_map", .take⟩, ⟨.userData, .keep⟩],
      (CallbackArg.type arg).Unbracketed := by
    simp only [List.forall_mem_cons]
    exact ⟨.handle (bracketFree_literal (by decide)), .userData, List.forall_mem_nil _⟩
  refine ⟨bracketFree_literal (by decide), .stat, ?_⟩
  simp only [foreachMap, List.forall_mem_cons]
  exact ⟨⟨bracketFree_literal (by decide), .handle (bracketFree_literal (by decide))⟩,
    ⟨bracketFree_literal (by decide), .callback .stat hargs⟩,
    ⟨bracketFree_literal (by decide), .userData⟩, List.forall_mem_nil _⟩

theorem unionMap_unbracketed : unionMap.Unbracketed where
  name := bracketFree_literal (by decide)
  subclassName sub h := by cases h
  typeTagAccessor f h := by cases h
  equality f h := by cases h
  stringify f h := by cases h
  constructors := List.forall_mem_nil _
  methods := by
    have hentries : unionMap.methods.entries = [(foreachMap.name, [foreachMap.function])] := rfl
    rw [hentries, List.forall_mem_singleton, List.forall_mem_singleton]
    exact ⟨bracketFree_literal (by decide), foreachMap_unbracketed⟩

/-- With exceptions on, and a method that takes a callback. -/
theorem generate_wellBracketed_unionMap :
    ∃ t text, ClassTable.ofClasses [unionMap] = .ok t ∧ Settings.standard.Unbracketed ∧
      (∀ c ∈ t.toList, c.Unbracketed) ∧ generate .standard t = .ok text ∧
      Dyck (text.toList.filter isBracket) := by
  obtain ⟨t, text, ht, htext⟩ : ∃ t text, ClassTable.ofClasses [unionMap] = .ok t ∧
      generate .standard t = .ok text := ⟨_, _, rfl, rfl⟩
  have hfree : ∀ c ∈ t.toList, c.Unbracketed := by
    intro c hc
    rw [List.mem_singleton.1 ((holds_of_ofClasses ht).perm.mem_iff.1 hc)]
    exact unionMap_unbracketed
  exact ⟨t, text, ht, standard_unbracketed, hfree, htext,
    generate_wellBracketed standard_unbracketed hfree htext⟩

end HandleWrap
