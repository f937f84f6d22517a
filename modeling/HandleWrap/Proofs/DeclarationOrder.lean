import HandleWrap.Proofs.HandleOwners
import HandleWrap.Proofs.Output

set_option autoImplicit false

/-! # The order of declarations

A class that derives from another one can only be compiled behind it. Declarations stand in the
order of the class keys, and nothing in the check of a table relates the key of a view to the key of
the class that it derives from. So a view comes behind its base exactly if its key does
(`view_behind_base_or_ahead`), which holds in particular for keys that extend the key of the base
(`lt_append`). -/

namespace HandleWrap

variable {s : Settings} {t : ClassTable} {c d : ObjectClass}

/-- Both classes are declared in the text, `first` before `second`. -/
def DeclaredBefore (s : Settings) (t : ClassTable) (first second : ObjectClass) (lines : Code) :
    Prop :=
  ∃ firstText secondText, classDeclaration s t first = .ok firstText ∧
    classDeclaration s t second = .ok secondText ∧ Code.InOrder firstText secondText lines

/-! ## Order of keys -/

/-- A longer key comes behind its own beginning. -/
theorem lt_append {key rest : String} (hrest : rest ≠ "") : key < key ++ rest := by
  have hne : rest.toList ≠ [] := fun hnil => hrest (String.toList_eq_nil_iff.1 hnil)
  obtain ⟨char, chars, hchars⟩ := List.exists_cons_of_ne_nil hne
  rw [String.lt_iff, String.toList_append, hchars]
  induction key.toList with
  | nil => exact List.nil_lt_cons char chars
  | cons head tail ih => exact List.cons_lt_cons_self.2 ih

/-- In a sorted list of classes the smaller key comes first. -/
theorem sublist_pair {classes : List ObjectClass}
    (hsorted : classes.Pairwise fun c d => c.key < d.key) (hc : c ∈ classes) (hd : d ∈ classes)
    (hlt : c.key < d.key) : [c, d].Sublist classes := by
  induction classes with
  | nil => cases hc
  | cons head rest ih =>
      obtain ⟨hhead, hsorted⟩ := List.pairwise_cons.1 hsorted
      rcases List.mem_cons.1 hc with rfl | hcrest
      · rcases List.mem_cons.1 hd with rfl | hdrest
        · exact absurd hlt (String.lt_irrefl _)
        · exact (List.singleton_sublist.2 hdrest).cons_cons c
      · rcases List.mem_cons.1 hd with rfl | hdrest
        · exact absurd hlt (String.lt_asymm (hhead c hcrest))
        · exact (ih hsorted hcrest hdrest).cons head

/-! ## Order of declarations -/

/-- Of two classes the one with the smaller key is declared first. -/
theorem declaredBefore_of_lt {lines : Code} (h : header s t = .ok lines) (hc : c ∈ t.toList)
    (hd : d ∈ t.toList) (hlt : c.key < d.key) : DeclaredBefore s t c d lines := by
  obtain ⟨declarations, implementations, ⟨hdeclarations, _⟩, rfl⟩ := header_eq_ok_iff.1 h
  have hpair : [c, d].Sublist t.toList := sublist_pair t.sorted hc hd hlt
  obtain ⟨texts, htexts, hsub⟩ := exists_sublist_of_forall₂ hpair hdeclarations
  obtain ⟨firstText, _, hfirst, hrest, rfl⟩ := List.forall₂_cons_left_iff.1 htexts
  obtain ⟨secondText, _, hsecond, hnil, rfl⟩ := List.forall₂_cons_left_iff.1 hrest
  obtain rfl := List.forall₂_nil_left_iff.1 hnil
  refine ⟨firstText, secondText, hfirst, hsecond, ?_⟩
  have hspaced := (Code.inOrder_spaced hsub).surround
    (opening s ++ forwardDeclarations s t ++ [""])
    ([""] ++ Code.spaced implementations ++ closing s)
  simpa only [List.append_assoc] using hspaced

/-- The head of a class stands in its declaration. -/
theorem classHead_mem_classDeclaration {code : Code} (h : classDeclaration s t c = .ok code) :
    classHead s c ∈ code := by
  obtain ⟨constructors, methods, _, _, rfl⟩ := classDeclaration_eq_ok_iff.1 h
  exact List.mem_flatten.2 ⟨["", classHead s c], by simp [declarationParts], by simp⟩

/-- **The declarations of a view and of the class that it derives from stand in the order of their
    keys.** The base comes first if its key does, as when the key of the view extends it; otherwise
    the view is declared ahead of its base. -/
theorem view_behind_base_or_ahead {text : String} (h : generate s t = .ok text)
    (hc : c ∈ t.toList) (hview : c.isTaggedView = true) :
    ∃ base lines viewText, t.get? c.name = some base ∧
      header s t = .ok lines ∧ lines.render = text ∧
      classDeclaration s t c = .ok viewText ∧
      "class " ++ s.className c ++ " : public " ++ s.className base ++ r" {" ∈ viewText ∧
      (base.key < c.key ∧ DeclaredBefore s t base c lines ∨
        c.key < base.key ∧ DeclaredBefore s t c base lines) ∧
      ∀ rest, c.key = base.key ++ rest → base.key < c.key := by
  obtain ⟨base, hbase, _⟩ := exists_base hc hview
  obtain ⟨hmem, hkey⟩ := ClassTable.get?_eq_some_iff.1 hbase
  obtain ⟨lines, hlines, hrender⟩ := generate_eq_ok_iff.1 h
  have hne : c.key ≠ base.key := by
    intro heq
    have hfalse := isTaggedView_eq_false_iff.2 (heq.trans hkey)
    rw [hview] at hfalse
    cases hfalse
  have horder : base.key < c.key ∧ DeclaredBefore s t base c lines ∨
      c.key < base.key ∧ DeclaredBefore s t c base lines := by
    by_cases hlt : base.key < c.key
    · exact Or.inl ⟨hlt, declaredBefore_of_lt hlines hmem hc hlt⟩
    · by_cases hgt : c.key < base.key
      · exact Or.inr ⟨hgt, declaredBefore_of_lt hlines hc hmem hgt⟩
      · exact absurd (String.le_antisymm hlt hgt) hne
  obtain ⟨declarations, _, ⟨hdeclarations, _⟩, _⟩ := header_eq_ok_iff.1 hlines
  obtain ⟨viewText, _, htext⟩ := exists_mem_of_forall₂ hdeclarations hc
  refine ⟨base, lines, viewText, hbase, hlines, hrender, htext, ?_, horder, fun rest heq => ?_⟩
  · rw [← (derivesFrom_of_key s hview hkey).head]
    exact classHead_mem_classDeclaration htext
  · rw [heq]
    -- with nothing behind the key of the base the view would have that key itself
    refine lt_append fun hempty => hne ?_
    rw [heq, hempty, String.append_empty]

theorem view_behind_base_or_ahead_scheduleNodeBand :
    ∃ t text, ClassTable.ofClasses [scheduleNodeBand, scheduleNode] = .ok t ∧
      generate .standard t = .ok text ∧ scheduleNodeBand ∈ t.toList ∧
      scheduleNodeBand.isTaggedView = true ∧
      ∃ lines, lines.render = text ∧
        DeclaredBefore .standard t scheduleNode scheduleNodeBand lines := by
  obtain ⟨t, text, ht, htext⟩ : ∃ t text,
      ClassTable.ofClasses [scheduleNodeBand, scheduleNode] = .ok t ∧
        generate .standard t = .ok text := ⟨_, _, rfl, rfl⟩
  have hholds := holds_of_ofClasses ht
  have hmem : scheduleNodeBand ∈ t.toList := hholds.perm.mem_iff.2 (by simp)
  have hget : t.get? scheduleNodeBand.name = some scheduleNode :=
    (hholds.get?_iff _ _).2 ⟨by simp, rfl⟩
  refine ⟨t, text, ht, htext, hmem, rfl, ?_⟩
  obtain ⟨base, lines, _, hbase, _, hrender, _, _, horder, hlt⟩ :=
    view_behind_base_or_ahead htext hmem rfl
  obtain rfl : scheduleNode = base := Option.some.inj (hget.symm.trans hbase)
  refine ⟨lines, hrender, ?_⟩
  rcases horder with ⟨_, hbefore⟩ | ⟨hgt, _⟩
  · exact hbefore
  · exact absurd hgt (String.lt_asymm (hlt "_band" rfl))

/-- A view whose key stands before the key of the class that it derives from. -/
def earlyBand : ObjectClass :=
  .viewOf scheduleNode.name "isl_band"

/-- Bands under a short key are declared ahead of their base. -/
theorem base_not_before_earlyBand :
    ∃ t text lines, ClassTable.ofClasses [scheduleNode, earlyBand] = .ok t ∧
      generate .standard t = .ok text ∧ header .standard t = .ok lines ∧ lines.render = text ∧
      earlyBand ∈ t.toList ∧ earlyBand.isTaggedView = true ∧
      t.get? earlyBand.name = some scheduleNode ∧
      ¬ DeclaredBefore .standard t scheduleNode earlyBand lines := by
  obtain ⟨t, lines, ht, hlines, hsublist⟩ : ∃ t lines,
      ClassTable.ofClasses [scheduleNode, earlyBand] = .ok t ∧ header .standard t = .ok lines ∧
        ¬ [classHead .standard scheduleNode, classHead .standard earlyBand].Sublist lines :=
    ⟨_, _, rfl, rfl, by decide⟩
  have hholds := holds_of_ofClasses ht
  refine ⟨t, lines.render, lines, ht, generate_eq_ok_iff.2 ⟨lines, hlines, rfl⟩, hlines, rfl,
    hholds.perm.mem_iff.2 (by simp), rfl, (hholds.get?_iff _ _).2 ⟨by simp, rfl⟩, ?_⟩
  rintro ⟨baseText, viewText, hbase, hview, horder⟩
  exact hsublist (horder.sublist (classHead_mem_classDeclaration hbase)
    (classHead_mem_classDeclaration hview))

end HandleWrap
