import HandleWrap.Header
import HandleWrap.Proofs.TableAcceptance

set_option autoImplicit false

/-! # The order in which classes are listed

A table is built from a list in two steps, and the order of the list is gone after the first one:
the classes stand under their keys, in order of the keys. Whether the first step gets through does
not depend on the order either (`collectable_perm`); only the class that it stops at does. So a
table comes out the same whatever the order of the list is, and so does every error that is found in
the second step (`ofClasses_perm`). -/

namespace HandleWrap

/-- Whether the error is found while the classes are put under their keys. -/
def TableError.isOfCollection : TableError → Bool
  | .emptyName | .duplicateClass _ => true
  | _ => false

variable {classes : NameMap ObjectClass} {list list' : List ObjectClass}

/-! ## Putting classes under their keys -/

theorem isOfCollection_of_collect {e : TableError} (h : collect classes list = .error e) :
    e.isOfCollection = true := by
  induction list generalizing classes with
  | nil => cases h
  | cons c rest ih =>
      rw [collect] at h
      split at h
      · cases h
        rfl
      · split at h
        · cases h
          rfl
        · exact ih h

/-- Whether classes can be put under their keys does not depend on their order. -/
theorem collectable_perm (h : list.Perm list') :
    Collectable classes list ↔ Collectable classes list' := by
  have himp : ∀ {l l' : List ObjectClass}, l.Perm l' → Collectable classes l →
      Collectable classes l' := by
    rintro l l' hperm ⟨hnamed, hdistinct, hnew⟩
    refine ⟨fun c hc => hnamed c (hperm.mem_iff.2 hc), ?_, fun c hc => hnew c (hperm.mem_iff.2 hc)⟩
    exact (hperm.map _).nodup_iff.1 hdistinct
  exact ⟨himp h, himp h.symm⟩

/-- Classes that stand under their keys are a map that is known from the classes alone. -/
theorem NameMap.Keyed.eq_of_perm {m m' : NameMap ObjectClass} (hm : m.Keyed) (hm' : m'.Keyed)
    (h : m.values.Perm m'.values) : m = m' := by
  have hentries : ∀ {n : NameMap ObjectClass}, n.Keyed →
      n.entries = n.values.map fun c => (c.key, c) := by
    intro n hn
    have hself : ∀ e ∈ n.entries, e = (e.2.key, e.2) := fun e he => by rw [← hn e he]
    rw [NameMap.values, List.map_map]
    exact (List.map_id' n.entries).symm.trans (List.map_congr_left hself)
  have hperm : m.entries.Perm m'.entries := by
    rw [hentries hm, hentries hm']
    exact h.map _
  refine NameMap.ext (hperm.eq_of_pairwise (fun a b _ _ hlt hgt => ?_) m.sorted m'.sorted)
  exact absurd hgt (String.lt_asymm hlt)

theorem eq_of_collect_perm {m m' : NameMap ObjectClass} (h : list.Perm list')
    (hm : collect .empty list = .ok m) (hm' : collect .empty list' = .ok m') : m = m' := by
  have hkeyed : (NameMap.empty : NameMap ObjectClass).Keyed := fun e he => by cases he
  refine (keyed_of_collect hkeyed hm).eq_of_perm (keyed_of_collect hkeyed hm') ?_
  exact (perm_of_collect_empty hm).trans (h.trans (perm_of_collect_empty hm').symm)

/-! ## Tables -/

/-- A table fails in one of the two steps. -/
theorem ofClasses_eq_error_iff {e : TableError} :
    ClassTable.ofClasses list = .error e ↔ collect .empty list = .error e ∨
      ∃ m, collect .empty list = .ok m ∧ m.problem? = some e := by
  unfold ClassTable.ofClasses
  split
  · next cause hm => simp [hm]
  · next m hm =>
      simp only [hm, reduceCtorEq, false_or, Except.ok.injEq, exists_eq_left']
      split
      · next cause hv => simp [hv]
      · next hv => simp [hv]

/-- **The order of the list does not matter.** In every order the same table comes out, and hence
    the same output, or none; and then the errors are the same, unless both are about names and
    keys. -/
theorem ofClasses_perm (h : list.Perm list') :
    (∃ t t', ClassTable.ofClasses list = .ok t ∧ ClassTable.ofClasses list' = .ok t' ∧ t = t' ∧
      ∀ s, generate s t = generate s t') ∨
    ∃ e e', ClassTable.ofClasses list = .error e ∧ ClassTable.ofClasses list' = .error e' ∧
      (e = e' ∨ e.isOfCollection = true ∧ e'.isOfCollection = true) := by
  cases hm : collect .empty list with
  | error e =>
      have hnot : ¬ Succeeds (collect .empty list') := by
        rw [succeeds_collect_iff, ← collectable_perm h, ← succeeds_collect_iff, hm]
        exact not_succeeds_error e
      cases hm' : collect .empty list' with
      | error e' =>
          exact Or.inr ⟨e, e', ofClasses_eq_error_iff.2 (Or.inl hm),
            ofClasses_eq_error_iff.2 (Or.inl hm'),
            Or.inr ⟨isOfCollection_of_collect hm, isOfCollection_of_collect hm'⟩⟩
      | ok m' => exact absurd ⟨m', hm'⟩ hnot
  | ok m =>
      obtain ⟨m', hm'⟩ : Succeeds (collect .empty list') :=
        succeeds_collect_iff.2 ((collectable_perm h).1 (succeeds_collect_iff.1 ⟨m, hm⟩))
      obtain rfl := eq_of_collect_perm h hm hm'
      cases hproblem : m.problem? with
      | none =>
          have hkeyed : m.Keyed := keyed_of_collect (fun e he => by cases he) hm
          obtain ⟨t, rfl⟩ : ∃ t : ClassTable, t.classes = m := ⟨⟨m, hkeyed, hproblem⟩, rfl⟩
          exact Or.inl ⟨t, t, ofClasses_eq_ok_iff.2 hm, ofClasses_eq_ok_iff.2 hm', rfl,
            fun s => rfl⟩
      | some e =>
          exact Or.inr ⟨e, e, ofClasses_eq_error_iff.2 (Or.inr ⟨m, hm, hproblem⟩),
            ofClasses_eq_error_iff.2 (Or.inr ⟨m, hm', hproblem⟩), Or.inl rfl⟩

theorem ofClasses_perm_scheduleNode :
    [unionMap, scheduleNodeBand, scheduleNode].Perm [scheduleNode, unionMap, scheduleNodeBand] ∧
      ∃ t t' text, ClassTable.ofClasses [unionMap, scheduleNodeBand, scheduleNode] = .ok t ∧
        ClassTable.ofClasses [scheduleNode, unionMap, scheduleNodeBand] = .ok t' ∧ t = t' ∧
        generate .standard t = .ok text ∧ generate .standard t' = .ok text := by
  have hperm : ([unionMap, scheduleNodeBand] ++ [scheduleNode]).Perm
      ([scheduleNode] ++ [unionMap, scheduleNodeBand]) := List.perm_append_comm
  obtain ⟨t, text, ht, htext⟩ : ∃ t text,
      ClassTable.ofClasses [unionMap, scheduleNodeBand, scheduleNode] = .ok t ∧
        generate .standard t = .ok text := ⟨_, _, rfl, rfl⟩
  refine ⟨hperm, ?_⟩
  rcases ofClasses_perm hperm with ⟨t₁, t₂, h₁, h₂, hsame, hgenerate⟩ | ⟨e, _, he, _⟩
  · obtain rfl : t = t₁ := Except.ok.inj (ht.symm.trans h₁)
    exact ⟨t, t₂, text, ht, h₂, hsame, htext, (hgenerate .standard).symm.trans htext⟩
  · cases ht.symm.trans he

end HandleWrap
