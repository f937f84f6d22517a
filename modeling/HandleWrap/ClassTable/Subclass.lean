import HandleWrap.ClassTable

set_option autoImplicit false

/-! # Subclasses

Whether one class is a subclass of another, directly or through others. Superclass names may form
cycles, so the search remembers the names that it has met and follows each of them once. -/

namespace HandleWrap.ClassTable

/-- The superclasses listed for a key; none for a name that is no key. -/
def superclassesOf (t : ClassTable) (key : String) : List String :=
  match t.get? key with
  | some c => c.superclasses
  | none => []

/-- The keys that a search has not met. -/
def unmet (t : ClassTable) (met : List String) : List String :=
  t.classes.names.filter fun key => !met.contains key

theorem mem_names_of_get? {t : ClassTable} {key : String} {c : ObjectClass}
    (h : t.get? key = some c) : key ∈ t.classes.names := by
  have : (key, c) ∈ t.classes.entries := by
    have := List.lookup_eq_some_iff.1 h
    obtain ⟨before, after, heq, _⟩ := this
    simp [heq]
  exact List.mem_map.2 ⟨_, this, rfl⟩

/-- Meeting a name takes it off the keys that have not been met. -/
theorem unmet_cons (t : ClassTable) (name : String) (met : List String) :
    t.unmet (name :: met) = (t.unmet met).filter fun key => !(key == name) := by
  simp only [unmet, List.filter_filter, List.contains_cons]
  congr 1; funext key; simp [Bool.not_or]

theorem length_unmet_cons_le (t : ClassTable) (key : String) (met : List String) :
    (t.unmet (key :: met)).length ≤ (t.unmet met).length := by
  rw [unmet_cons]
  exact List.length_filter_le ..

theorem length_unmet_cons_lt {t : ClassTable} {key : String} {met : List String}
    (hkey : key ∈ t.classes.names) (hmet : ¬met.contains key) :
    (t.unmet (key :: met)).length < (t.unmet met).length := by
  rw [unmet_cons, List.length_filter_lt_length_iff_exists]
  exact ⟨key, List.mem_filter.2 ⟨hkey, by simpa using hmet⟩, by simp⟩

/-- Whether the search finds `target` among the pending names or on a way up from them. -/
def reaches (t : ClassTable) (target : String) (met : List String) : List String → Bool
  | [] => false
  | name :: pending =>
    if name = target then true
    else if met.contains name then t.reaches target met pending
    else
      match _found : t.get? name with
      | none => t.reaches target (name :: met) pending
      | some c => t.reaches target (name :: met) (c.superclasses ++ pending)
termination_by pending => ((t.unmet met).length, pending.length)
decreasing_by
  · exact Prod.Lex.right _ (by simp)
  · rcases Nat.lt_or_eq_of_le (length_unmet_cons_le t name met) with h | h
    · exact Prod.Lex.left _ _ h
    · rw [h]; exact Prod.Lex.right _ (by simp)
  · next hmet =>
    exact Prod.Lex.left _ _ (length_unmet_cons_lt (mem_names_of_get? _found) hmet)

/-! ## The search, round by round -/

/-- One round of the search. -/
theorem reaches_cons (t : ClassTable) (target name : String) (met pending : List String) :
    t.reaches target met (name :: pending) =
      if name = target then true
      else if met.contains name then t.reaches target met pending
      else t.reaches target (name :: met) (t.superclassesOf name ++ pending) := by
  rw [reaches]
  unfold superclassesOf
  split
  · rfl
  · split
    · rfl
    · split
      · next hnone => rw [hnone]; rfl
      · next hsome => rw [hsome]

theorem reaches_target (t : ClassTable) (target : String) (met pending : List String) :
    t.reaches target met (target :: pending) = true := by
  rw [reaches_cons, if_pos rfl]

/-- A name that the search has met is passed over. -/
theorem reaches_skip (t : ClassTable) {target name : String} {met : List String}
    (hne : name ≠ target) (hmet : name ∈ met) (pending : List String) :
    t.reaches target met (name :: pending) = t.reaches target met pending := by
  rw [reaches_cons, if_neg hne, if_pos (List.contains_iff_mem.2 hmet)]

/-- A new name is met, and its superclasses are looked at in its place. -/
theorem reaches_expand (t : ClassTable) {target name : String} {met : List String}
    (hne : name ≠ target) (hmet : name ∉ met) (pending : List String) :
    t.reaches target met (name :: pending) =
      t.reaches target (name :: met) (t.superclassesOf name ++ pending) := by
  rw [reaches_cons, if_neg hne, if_neg (mt List.contains_iff_mem.1 hmet)]

/-- Induction along the search: a round finds the target, passes over a name or expands one. -/
@[elab_as_elim]
theorem reaches_induction (t : ClassTable) (target : String)
    {motive : List String → List String → Prop} (met pending : List String)
    (done : ∀ met, motive met [])
    (found : ∀ met pending, motive met (target :: pending))
    (skip : ∀ met name pending, name ≠ target → name ∈ met → motive met pending →
      motive met (name :: pending))
    (expand : ∀ met name pending, name ≠ target → name ∉ met →
      motive (name :: met) (t.superclassesOf name ++ pending) → motive met (name :: pending)) :
    motive met pending := by
  induction met, pending using reaches.induct t target with
  | case1 met => exact done met
  | case2 met pending => exact found met pending
  | case3 met name pending hne hmet ih =>
    exact skip met name pending hne (List.contains_iff_mem.1 hmet) ih
  | case4 met name pending hne hmet hnone ih =>
    refine expand met name pending hne (mt List.contains_iff_mem.2 hmet) ?_
    rwa [superclassesOf, hnone]
  | case5 met name pending hne hmet c hc ih =>
    refine expand met name pending hne (mt List.contains_iff_mem.2 hmet) ?_
    rwa [superclassesOf, hc]

/-! ## Subclasses -/

/-- Whether the class with key `sub` is a subclass of `c`, directly or through others. -/
def isSubclass (t : ClassTable) (sub : String) (c : ObjectClass) : Bool :=
  t.reaches c.key [] (t.superclassesOf sub)

end HandleWrap.ClassTable
