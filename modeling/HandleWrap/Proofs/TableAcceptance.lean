import HandleWrap.Proofs.Member
import HandleWrap.Proofs.Pairing

set_option autoImplicit false

/-! # Which classes make a table

A table is built in two steps: the classes are put under their keys, and then every class is looked
at in turn. `FitTogether` says what it takes on the list of classes alone, without a map, an order
or an error. `ofClasses_accepts` says that exactly these lists make a table, and that nothing of the
list is lost, changed or added on the way: the table holds the given classes, in order of their
keys. -/

namespace HandleWrap

/-- What a class needs of itself and of the classes that it comes with. -/
structure ObjectClass.FitsAmong (c : ObjectClass) (classes : List ObjectClass) : Prop where
  superclasses : ∀ name ∈ c.superclasses, ∃ d ∈ classes, d.key = name
  /-- A view has a class under the name of its C type that can read the tag. -/
  root : ∀ sub, c.subclassName = some sub → sub ≠ c.name →
    ∃ d ∈ classes, d.key = c.name ∧ d.typeTagAccessor ≠ none
  /-- The equality hook stands for a method. -/
  equality : ∀ hook, c.equality = some hook → c.methodName hook ∈ c.methods.names
  /-- The overloads of a method have different C names. -/
  overloads : ∀ group ∈ c.methods.entries, (group.2.map (·.name)).Nodup
  /-- Constructors and methods have names, and callbacks come with their user data. -/
  functions : ∀ f ∈ c.functions, f.name ≠ "" ∧ Paired f.params

/-- What classes need to make a table. -/
structure FitTogether (classes : List ObjectClass) : Prop where
  named : ∀ c ∈ classes, c.name ≠ ""
  /-- No two classes have the same key. -/
  distinct : (classes.map (·.key)).Nodup
  fits : ∀ c ∈ classes, c.FitsAmong classes

/-- A table holds the given classes and nothing else, in order of their keys. -/
structure ClassTable.Holds (t : ClassTable) (classes : List ObjectClass) : Prop where
  get?_iff : ∀ key c, t.get? key = some c ↔ c ∈ classes ∧ c.key = key
  perm : t.toList.Perm classes
  size : t.size = classes.length
  sorted : t.toList.Pairwise fun c d => c.key < d.key

variable {classes : NameMap ObjectClass} {c : ObjectClass} {list : List ObjectClass}
  {t : ClassTable}

/-! ## Looking classes up -/

theorem NameMap.Keyed.get?_eq_some_iff (h : classes.Keyed) {key : String} :
    classes.get? key = some c ↔ c ∈ classes.values ∧ c.key = key := by
  rw [NameMap.get?_eq_some_iff, NameMap.values, List.mem_map]
  constructor
  · intro hmem
    exact ⟨⟨(key, c), hmem, rfl⟩, (h _ hmem).symm⟩
  · rintro ⟨⟨e, hmem, rfl⟩, rfl⟩
    rw [← h e hmem]
    exact hmem

theorem NameMap.Keyed.contains_eq_true_iff (h : classes.Keyed) {key : String} :
    classes.contains key = true ↔ ∃ d ∈ classes.values, d.key = key := by
  rw [NameMap.contains, Option.isSome_iff_exists]
  exact exists_congr fun d => h.get?_eq_some_iff

theorem ClassTable.get?_eq_some_iff {key : String} :
    t.get? key = some c ↔ c ∈ t.toList ∧ c.key = key :=
  t.keyed.get?_eq_some_iff

/-! ## The check of one class -/

theorem firstRepeated?_go_eq_none_iff (seen names : List String) :
    firstRepeated?.go seen names = none ↔ names.Nodup ∧ ∀ name ∈ names, name ∉ seen := by
  -- every step moves a name to those that were seen
  induction names generalizing seen with
  | nil => simp [firstRepeated?.go]
  | cons name rest ih =>
      rw [firstRepeated?.go, List.nodup_cons, List.forall_mem_cons]
      by_cases hseen : name ∈ seen
      · simp [hseen]
      · simp only [List.contains_iff_mem, hseen, if_false, ih, List.mem_cons, not_or,
          not_false_eq_true, true_and]
        constructor
        · rintro ⟨hrest, hnew⟩
          exact ⟨⟨fun hmem => (hnew name hmem).1 rfl, hrest⟩, fun n hn => (hnew n hn).2⟩
        · rintro ⟨⟨hname, hrest⟩, hnew⟩
          exact ⟨hrest, fun n hn => ⟨fun heq => hname (heq ▸ hn), hnew n hn⟩⟩

/-- The look for a repeated name finds none exactly if all names differ. -/
theorem firstRepeated?_eq_none_iff (names : List String) :
    firstRepeated? names = none ↔ names.Nodup := by
  rw [firstRepeated?, firstRepeated?_go_eq_none_iff]
  simp

theorem isTaggedView_eq_true_iff :
    c.isTaggedView = true ↔ ∃ sub, c.subclassName = some sub ∧ sub ≠ c.name := by
  unfold ObjectClass.isTaggedView
  cases c.subclassName with
  | none => simp
  | some sub => simp

theorem superclassProblem?_eq_none_iff (h : classes.Keyed) :
    c.superclassProblem? classes = none ↔
      ∀ name ∈ c.superclasses, ∃ d ∈ classes.values, d.key = name := by
  rw [ObjectClass.superclassProblem?, Option.map_eq_none_iff, List.find?_eq_none]
  refine forall₂_congr fun name _ => ?_
  rw [← h.contains_eq_true_iff]
  simp

theorem rootProblem?_eq_none_iff (h : classes.Keyed) :
    c.rootProblem? classes = none ↔ ∀ sub, c.subclassName = some sub → sub ≠ c.name →
      ∃ d ∈ classes.values, d.key = c.name ∧ d.typeTagAccessor ≠ none := by
  have hroot : (classes.get? c.name).any (·.typeTagAccessor.isSome) = true ↔
      ∃ d ∈ classes.values, d.key = c.name ∧ d.typeTagAccessor ≠ none := by
    rw [Option.any_eq_true]
    refine exists_congr fun d => ?_
    rw [h.get?_eq_some_iff, Option.isSome_iff_ne_none, and_assoc]
  have hview : c.isTaggedView = true ↔ ∃ sub, c.subclassName = some sub ∧ sub ≠ c.name :=
    isTaggedView_eq_true_iff
  unfold ObjectClass.rootProblem?
  by_cases hc : c.isTaggedView = true
  · -- the name of the view is the one that the condition speaks of
    obtain ⟨sub, hsub, hne⟩ := hview.1 hc
    have hall : (∀ sub, c.subclassName = some sub → sub ≠ c.name →
        ∃ d ∈ classes.values, d.key = c.name ∧ d.typeTagAccessor ≠ none) ↔
        ∃ d ∈ classes.values, d.key = c.name ∧ d.typeTagAccessor ≠ none :=
      ⟨fun h => h sub hsub hne, fun h _ _ _ => h⟩
    rw [hall, ← hroot, hc]
    simp
  · refine iff_of_true (by simp [hc]) fun sub hsub hne => ?_
    exact absurd (hview.2 ⟨sub, hsub, hne⟩) hc

theorem equalityProblem?_eq_none_iff :
    c.equalityProblem? = none ↔
      ∀ hook, c.equality = some hook → c.methodName hook ∈ c.methods.names := by
  unfold ObjectClass.equalityProblem?
  cases c.equality with
  | none => simp
  | some hook =>
      simp only [Option.bind_some, Option.some.injEq, forall_eq', ← NameMap.contains_eq_true_iff]
      split
      · next hmem => simp [hmem]
      · next hmem => simp [hmem]

theorem overloadProblem?_eq_none_iff :
    c.overloadProblem? = none ↔ ∀ group ∈ c.methods.entries, (group.2.map (·.name)).Nodup := by
  rw [ObjectClass.overloadProblem?, List.findSome?_eq_none_iff]
  refine forall₂_congr fun group _ => ?_
  rw [Option.map_eq_none_iff, firstRepeated?_eq_none_iff]

theorem CFunction.problem?_eq_none_iff (key : String) (f : CFunction) :
    f.problem? key = none ↔ f.name ≠ "" ∧ Paired f.params := by
  rw [CFunction.problem?, ← pairingProblem?_eq_none_iff f.name f.params]
  split
  · next hempty => simp [String.isEmpty_iff.1 hempty]
  · next hname =>
      rw [and_iff_right]
      exact fun hempty => hname (String.isEmpty_iff.2 hempty)

/-- **The check of a class** finds nothing wrong exactly if the class fits among the others. -/
theorem ObjectClass.problem?_eq_none_iff (h : classes.Keyed) :
    c.problem? classes = none ↔ c.FitsAmong classes.values := by
  simp only [ObjectClass.problem?, Option.or_eq_none_iff, superclassProblem?_eq_none_iff h,
    rootProblem?_eq_none_iff h, equalityProblem?_eq_none_iff, overloadProblem?_eq_none_iff,
    List.findSome?_eq_none_iff, CFunction.problem?_eq_none_iff]
  constructor
  · rintro ⟨hsuperclasses, hroot, hequality, hoverloads, hfunctions⟩
    exact ⟨hsuperclasses, hroot, hequality, hoverloads, hfunctions⟩
  · rintro ⟨hsuperclasses, hroot, hequality, hoverloads, hfunctions⟩
    exact ⟨hsuperclasses, hroot, hequality, hoverloads, hfunctions⟩

/-- Whether a class fits does not depend on the order of the others. -/
theorem fitsAmong_perm {list list' : List ObjectClass} (h : list.Perm list') :
    c.FitsAmong list ↔ c.FitsAmong list' := by
  have himp : ∀ {l l' : List ObjectClass}, l.Perm l' → c.FitsAmong l → c.FitsAmong l' := by
    intro l l' hperm hfits
    refine ⟨fun name hname => ?_, fun sub hsub hne => ?_, hfits.equality, hfits.overloads,
      hfits.functions⟩
    · obtain ⟨d, hd, hkey⟩ := hfits.superclasses name hname
      exact ⟨d, hperm.mem_iff.1 hd, hkey⟩
    · obtain ⟨d, hd, hroot⟩ := hfits.root sub hsub hne
      exact ⟨d, hperm.mem_iff.1 hd, hroot⟩
  exact ⟨himp h, himp h.symm⟩

/-! ## Putting classes under their keys -/

/-- The classes have C names and new keys. -/
structure Collectable (classes : NameMap ObjectClass) (list : List ObjectClass) : Prop where
  named : ∀ c ∈ list, c.name ≠ ""
  distinct : (list.map (·.key)).Nodup
  new : ∀ c ∈ list, c.key ∉ classes.names

theorem perm_insert (hnew : c.key ∉ classes.names) :
    (classes.insert c.key c).entries.Perm ((c.key, c) :: classes.entries) :=
  NameMap.perm_insertEntry c hnew

theorem mem_names_insert {key : String} (hnew : c.key ∉ classes.names) :
    key ∈ (classes.insert c.key c).names ↔ key = c.key ∨ key ∈ classes.names := by
  rw [NameMap.names, ((perm_insert hnew).map _).mem_iff, List.map_cons, List.mem_cons]
  rfl

/-- A class more can be collected if it has a C name and a new key, and the others can after it. -/
theorem collectable_cons_iff {rest : List ObjectClass} :
    Collectable classes (c :: rest) ↔
      c.name ≠ "" ∧ c.key ∉ classes.names ∧ Collectable (classes.insert c.key c) rest := by
  constructor
  · rintro ⟨hnamed, hdistinct, hnew⟩
    rw [List.forall_mem_cons] at hnamed hnew
    rw [List.map_cons, List.nodup_cons] at hdistinct
    refine ⟨hnamed.1, hnew.1, hnamed.2, hdistinct.2, fun d hd hmem => ?_⟩
    rcases (mem_names_insert hnew.1).1 hmem with heq | hmem
    · exact hdistinct.1 (List.mem_map.2 ⟨d, hd, heq⟩)
    · exact hnew.2 d hd hmem
  · rintro ⟨hname, hkey, hnamed, hdistinct, hnew⟩
    have hmem : ∀ {key}, key ∈ (classes.insert c.key c).names ↔
        key = c.key ∨ key ∈ classes.names := mem_names_insert hkey
    refine ⟨List.forall_mem_cons.2 ⟨hname, hnamed⟩, ?_, List.forall_mem_cons.2 ⟨hkey, ?_⟩⟩
    · rw [List.map_cons, List.nodup_cons]
      refine ⟨fun hrest => ?_, hdistinct⟩
      obtain ⟨d, hd, heq⟩ := List.mem_map.1 hrest
      exact hnew d hd (hmem.2 (Or.inl heq))
    · exact fun d hd hold => hnew d hd (hmem.2 (Or.inr hold))

/-- One step of the collection. -/
theorem collect_cons_eq_ok_iff {rest : List ObjectClass} {m : NameMap ObjectClass} :
    collect classes (c :: rest) = .ok m ↔
      c.name ≠ "" ∧ c.key ∉ classes.names ∧ collect (classes.insert c.key c) rest = .ok m := by
  rw [collect]
  split
  · next hempty => simp [String.isEmpty_iff.1 hempty]
  · next hname =>
      have hname : c.name ≠ "" := fun hempty => hname (String.isEmpty_iff.2 hempty)
      rw [and_iff_right hname]
      split
      · next hkey => simp [classes.contains_eq_true_iff.1 hkey]
      · next hkey =>
          rw [and_iff_right]
          exact mt classes.contains_eq_true_iff.2 hkey

theorem succeeds_collect_iff : Succeeds (collect classes list) ↔ Collectable classes list := by
  induction list generalizing classes with
  | nil => exact iff_of_true ⟨classes, rfl⟩ ⟨by simp, by simp, by simp⟩
  | cons c rest ih =>
      rw [collectable_cons_iff, ← ih]
      simp only [Succeeds, collect_cons_eq_ok_iff, exists_and_left]

/-- Nothing is lost, and no class takes the place of another. -/
theorem perm_of_collect {m : NameMap ObjectClass} (h : collect classes list = .ok m) :
    m.values.Perm (list ++ classes.values) := by
  induction list generalizing classes with
  | nil =>
      cases h
      exact List.Perm.refl _
  | cons c rest ih =>
      obtain ⟨_, hnew, h⟩ := collect_cons_eq_ok_iff.1 h
      have hvalues : (classes.insert c.key c).values.Perm (c :: classes.values) :=
        (perm_insert hnew).map _
      have hrest : m.values.Perm (rest ++ (classes.insert c.key c).values) := ih h
      exact (hrest.trans (hvalues.append_left rest)).trans List.perm_middle

/-! ## Tables -/

/-- A table is made of a list if its classes are what is collected from the list; then nothing can
    be wrong with them. -/
theorem ofClasses_eq_ok_iff :
    ClassTable.ofClasses list = .ok t ↔ collect .empty list = .ok t.classes := by
  unfold ClassTable.ofClasses
  constructor
  · intro h
    split at h
    · cases h
    · next m hm =>
        split at h
        · cases h
        · cases h
          exact hm
  · intro h
    split
    · next e hm => rw [h] at hm; cases hm
    · next m hm =>
        obtain rfl : t.classes = m := Except.ok.inj (h.symm.trans hm)
        split
        · next e hv => rw [t.valid] at hv; cases hv
        · rfl

/-- What is collected from a list are its classes. -/
theorem perm_of_collect_empty {m : NameMap ObjectClass} (h : collect .empty list = .ok m) :
    m.values.Perm list := by
  have hempty : (NameMap.empty : NameMap ObjectClass).values = [] := rfl
  have hperm := perm_of_collect h
  rwa [hempty, List.append_nil] at hperm

/-- Collected classes make a table exactly if each of them fits among the list. -/
theorem problem?_of_collect {m : NameMap ObjectClass} (h : collect .empty list = .ok m) :
    m.problem? = none ↔ ∀ c ∈ list, c.FitsAmong list := by
  have hperm : m.values.Perm list := perm_of_collect_empty h
  have hkeyed : m.Keyed := keyed_of_collect (fun e he => by cases he) h
  rw [NameMap.problem?, List.findSome?_eq_none_iff]
  constructor
  · intro hvalid c hc
    have hproblem := hvalid c (hperm.mem_iff.2 hc)
    exact (fitsAmong_perm hperm).1 ((ObjectClass.problem?_eq_none_iff hkeyed).1 hproblem)
  · intro hfits c hc
    refine (ObjectClass.problem?_eq_none_iff hkeyed).2 ((fitsAmong_perm hperm).2 ?_)
    exact hfits c (hperm.mem_iff.1 hc)

theorem succeeds_ofClasses_iff : Succeeds (ClassTable.ofClasses list) ↔ FitTogether list := by
  have hcollectable : Collectable .empty list ↔
      (∀ c ∈ list, c.name ≠ "") ∧ (list.map (·.key)).Nodup := by
    constructor
    · rintro ⟨hnamed, hdistinct, _⟩
      exact ⟨hnamed, hdistinct⟩
    · rintro ⟨hnamed, hdistinct⟩
      exact ⟨hnamed, hdistinct, fun c _ hmem => by cases hmem⟩
  constructor
  · rintro ⟨t, ht⟩
    have hcollect := ofClasses_eq_ok_iff.1 ht
    obtain ⟨hnamed, hdistinct⟩ := hcollectable.1 (succeeds_collect_iff.1 ⟨_, hcollect⟩)
    exact ⟨hnamed, hdistinct, (problem?_of_collect hcollect).1 t.valid⟩
  · rintro ⟨hnamed, hdistinct, hfits⟩
    obtain ⟨m, hm⟩ := succeeds_collect_iff.2 (hcollectable.2 ⟨hnamed, hdistinct⟩)
    have hkeyed : m.Keyed := keyed_of_collect (fun e he => by cases he) hm
    exact ⟨⟨m, hkeyed, (problem?_of_collect hm).2 hfits⟩, ofClasses_eq_ok_iff.2 hm⟩

/-- The classes of a table stand in order of their keys. -/
theorem ClassTable.sorted (t : ClassTable) : t.toList.Pairwise fun c d => c.key < d.key := by
  rw [ClassTable.toList, NameMap.values, List.pairwise_map]
  refine t.classes.sorted.imp_of_mem fun ha hb hlt => ?_
  rwa [t.keyed _ ha, t.keyed _ hb] at hlt

theorem holds_of_ofClasses (h : ClassTable.ofClasses list = .ok t) : t.Holds list := by
  have hperm : t.toList.Perm list := perm_of_collect_empty (ofClasses_eq_ok_iff.1 h)
  refine ⟨fun key c => ?_, hperm, ?_, t.sorted⟩
  · rw [ClassTable.get?_eq_some_iff, hperm.mem_iff]
  · rw [← hperm.length_eq, ClassTable.toList, NameMap.values, List.length_map]
    rfl

/-! ## Acceptance -/

/-- The root of the schedule nodes, which are told apart by their type. -/
def scheduleNode : ObjectClass where
  name := "isl_schedule_node"
  typeTagAccessor := some (.named "isl_schedule_node_get_type")

/-- The schedule nodes that are bands. -/
def scheduleNodeBand : ObjectClass :=
  .viewOf scheduleNode.name "isl_schedule_node_band"

/-- **Classes make a table exactly if they fit together,** and then the table holds them all. -/
theorem ofClasses_accepts (list : List ObjectClass) :
    ((∃ t, ClassTable.ofClasses list = .ok t) ↔ FitTogether list) ∧
    ∀ t, ClassTable.ofClasses list = .ok t → t.Holds list :=
  ⟨succeeds_ofClasses_iff, fun _ => holds_of_ofClasses⟩

theorem ofClasses_accepts_scheduleNode :
    ∃ t, ClassTable.ofClasses [unionMap, scheduleNodeBand, scheduleNode] = .ok t ∧
      FitTogether [unionMap, scheduleNodeBand, scheduleNode] ∧
      t.Holds [unionMap, scheduleNodeBand, scheduleNode] := by
  obtain ⟨t, ht⟩ : ∃ t, ClassTable.ofClasses [unionMap, scheduleNodeBand, scheduleNode] = .ok t :=
    ⟨_, rfl⟩
  exact ⟨t, ht, (ofClasses_accepts _).1.1 ⟨t, ht⟩, (ofClasses_accepts _).2 t ht⟩

end HandleWrap
