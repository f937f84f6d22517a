import HandleWrap.Proofs.ClassPasses
import HandleWrap.Proofs.TableAcceptance

set_option autoImplicit false

/-! # Who owns the handles of a C type

All classes over one C type work on the same handles, and only one of them may free them. It is the
class that stands in the table under the name of the type, since a class owns its handle exactly if
its key is the name of its C type (`ownsHandle_eq_true_iff`). The check of a table asks that class
for a tag accessor, not for its position: a view with an accessor passes as the root of other views.
So a C type has one owner, and its views derive from a root, unless a view stands under the name of
the type (`owned_or_below_view`). -/

namespace HandleWrap

/-- Wherever the texts of a view name the class that it derives from, they name `root`. -/
structure DerivesFrom (s : Settings) (view root : ObjectClass) : Prop where
  head : classHead s view =
    "class " ++ s.className view ++ " : public " ++ s.className root ++ r" {"
  /-- `root` may make views. -/
  grants : viewLines s view =
    ["  friend " ++ s.boolType ++ " " ++ s.className root ++ "::isa<" ++ s.className view ++ ">();",
      "  friend " ++ s.className view ++ " " ++ s.className root ++ "::as<" ++ s.className view ++
        ">();",
      "  static const auto type = " ++ view.key ++ ";"]
  defaultConstructor : "    : " ++ s.className root ++ "() {}" ∈ publicConstructors s view
  copyConstructor : "    : " ++ s.className root ++ "(obj)" ∈ publicConstructors s view
  adoptingConstructor :
    "    : " ++ s.className root ++ "(ptr) {}" ∈ protectedConstructor s view

/-- The texts of `root` have what its views share: the handle, the functions that make, free and
    lend it, and the templates that tell views apart. -/
structure EmitsHandle (s : Settings) (root : ObjectClass) (declaration implementation : Code) :
    Prop where
  handle : "  " ++ root.name ++ " *ptr = nullptr;" ∈ declaration
  builtIns : ∀ b ∈ [destructorBuiltIn s root, factoryBuiltIn s root, pointerBuiltIn s root,
    downcastBuiltIn s root], b.present = true ∧ b.InBoth declaration implementation

/-- `t.Owned c owner`: of the classes over the C type of `c`, `owner` is the one that owns the
    handles, and if `c` is a view it derives from there. -/
structure ClassTable.Owned (t : ClassTable) (c owner : ObjectClass) : Prop where
  mem : owner ∈ t.toList
  name : owner.name = c.name
  owns : owner.ownsHandle = true
  unique : ∀ d ∈ t.toList, d.name = c.name → d.ownsHandle = true → d = owner
  root : c.isTaggedView = true → ∃ accessor, owner.role = .taggedRoot accessor
  base : c.isTaggedView = true → ∀ s, DerivesFrom s c owner ∧
    ∀ implementation, classImplementation s owner = .ok implementation →
      ∃ declaration, classDeclaration s t owner = .ok declaration ∧
        EmitsHandle s owner declaration implementation

variable {s : Settings} {t : ClassTable} {c d : ObjectClass}

/-! ## Keys and roles -/

theorem ownsHandle_eq_not_isTaggedView (c : ObjectClass) : c.ownsHandle = !c.isTaggedView := by
  unfold ObjectClass.ownsHandle ObjectClass.role
  cases c.isTaggedView with
  | true => rfl
  | false => cases c.typeTagAccessor <;> rfl

/-- A class owns its handle exactly if its key is the name of its C type. -/
theorem ownsHandle_eq_true_iff : c.ownsHandle = true ↔ c.key = c.name := by
  rw [ownsHandle_eq_not_isTaggedView]
  unfold ObjectClass.isTaggedView ObjectClass.key
  cases c.subclassName with
  | none => simp
  | some sub => simp

theorem isTaggedView_eq_false_iff : c.isTaggedView = false ↔ c.key = c.name := by
  rw [← ownsHandle_eq_true_iff, ownsHandle_eq_not_isTaggedView, Bool.not_eq_true']

/-- A class with a tag accessor that is no view is a root. -/
theorem role_of_typeTagAccessor (hview : c.isTaggedView = false)
    (haccessor : c.typeTagAccessor ≠ none) : ∃ accessor, c.role = .taggedRoot accessor := by
  obtain ⟨accessor, h⟩ := Option.ne_none_iff_exists'.1 haccessor
  refine ⟨accessor, ?_⟩
  simp [ObjectClass.role, hview, h]

/-- The owner of the handles of a C type stands under the name of the type. -/
theorem get?_of_ownsHandle (hd : d ∈ t.toList) (howns : d.ownsHandle = true) :
    t.get? d.name = some d :=
  ClassTable.get?_eq_some_iff.2 ⟨hd, ownsHandle_eq_true_iff.1 howns⟩

/-- The class under the name of a C type that is no view is the only owner. -/
theorem eq_of_ownsHandle (hd : t.get? c.name = some d) {e : ObjectClass} (he : e ∈ t.toList)
    (hname : e.name = c.name) (howns : e.ownsHandle = true) : e = d := by
  have hget := get?_of_ownsHandle he howns
  rw [hname, hd] at hget
  exact (Option.some.inj hget).symm

/-- The class under the name of the C type of a view can read the tag. -/
theorem exists_base (hc : c ∈ t.toList) (hview : c.isTaggedView = true) :
    ∃ d, t.get? c.name = some d ∧ d.typeTagAccessor ≠ none := by
  have hfits := (ObjectClass.problem?_eq_none_iff t.keyed).1 (t.problem?_of_mem hc)
  obtain ⟨sub, hsub, hne⟩ := isTaggedView_eq_true_iff.1 hview
  obtain ⟨d, hd, hkey, haccessor⟩ := hfits.root sub hsub hne
  exact ⟨d, ClassTable.get?_eq_some_iff.2 ⟨hd, hkey⟩, haccessor⟩

/-! ## Texts -/

/-- A view derives from the class whose key is the name of its C type. -/
theorem derivesFrom_of_key (s : Settings) (hview : c.isTaggedView = true) (hkey : d.key = c.name) :
    DerivesFrom s c d := by
  have hbase : s.baseClassName c = s.className d := by
    rw [Settings.baseClassName, Settings.className, hkey]
  have howns : c.ownsHandle = false := by
    rw [ownsHandle_eq_not_isTaggedView, hview]
    rfl
  have hrole : c.role = .taggedView c.name c.key := by
    rw [ObjectClass.role, if_pos hview]
  refine ⟨?_, ?_, ?_, ?_, ?_⟩
  · have hpublic : ∀ text, " " ++ (": public " ++ text) = " : public " ++ text := fun text => by
      rw [← String.append_assoc]
      rfl
    simp [classHead, howns, hbase, String.append_assoc, hpublic]
  · simp only [viewLines, hrole, hbase]
  · simp [publicConstructors, howns, hbase]
  · simp [publicConstructors, howns, hbase]
  · simp [protectedConstructor, howns, hbase]

/-- A root has all that its views share in both of its texts. -/
theorem emitsHandle_of_taggedRoot {accessor : CFunction} (hrole : c.role = .taggedRoot accessor)
    {implementation : Code} (h : classImplementation s c = .ok implementation) :
    ∃ declaration, classDeclaration s t c = .ok declaration ∧
      EmitsHandle s c declaration implementation := by
  have howns : c.ownsHandle = true := by rw [ObjectClass.ownsHandle, hrole]; rfl
  have hroot : c.isTaggedRoot = true := by rw [ObjectClass.isTaggedRoot, hrole]
  obtain ⟨constructors, methods, declaration, hdeclaration, hsame⟩ :=
    sameMembers_of_classImplementation (t := t) h
  refine ⟨declaration, hdeclaration, ?_, fun b hb => ⟨?_, hsame.inBoth ?_⟩⟩
  · have hline : "  " ++ c.name ++ " *ptr = nullptr;" ∈ protectedLines c := by
      simp [protectedLines, howns]
    have hsame' : protectedLines c.withoutMembers = protectedLines c := rfl
    rw [hsame.declaration_eq]
    refine List.mem_flatten.2 ⟨_, ?_, hline⟩
    rw [← hsame']
    simp [declarationParts]
  · simp only [List.mem_cons, List.not_mem_nil, or_false] at hb
    rcases hb with rfl | rfl | rfl | rfl
    · exact howns
    · exact howns
    · exact howns
    · exact hroot
  · simp only [List.mem_cons, List.not_mem_nil, or_false] at hb
    rcases hb with rfl | rfl | rfl | rfl <;> simp [builtIns]

/-! ## Owners -/

/-- The class under the name of a C type that is no view owns the handles of the type. -/
theorem owned_of_get? (hc : c ∈ t.toList) (hd : t.get? c.name = some d)
    (hview : d.isTaggedView = false) : t.Owned c d := by
  obtain ⟨hmem, hkey⟩ := ClassTable.get?_eq_some_iff.1 hd
  have hname : d.name = c.name := (isTaggedView_eq_false_iff.1 hview).symm.trans hkey
  have howns : d.ownsHandle = true := by
    rw [ownsHandle_eq_not_isTaggedView, hview]
    rfl
  have hroot : c.isTaggedView = true → ∃ accessor, d.role = .taggedRoot accessor := by
    intro hc'
    obtain ⟨base, hbase, haccessor⟩ := exists_base hc hc'
    obtain rfl : d = base := Option.some.inj (hd.symm.trans hbase)
    exact role_of_typeTagAccessor hview haccessor
  refine ⟨hmem, hname, howns, fun e he => eq_of_ownsHandle hd he, hroot, fun hc' s => ?_⟩
  obtain ⟨accessor, hrole⟩ := hroot hc'
  exact ⟨derivesFrom_of_key s hc' hkey, fun implementation => emitsHandle_of_taggedRoot hrole⟩

/-- Below a view nobody owns the handles. -/
theorem not_ownsHandle_of_view (hd : t.get? c.name = some d) (hview : d.isTaggedView = true) :
    ¬ ∃ owner ∈ t.toList, owner.name = c.name ∧ owner.ownsHandle = true := by
  rintro ⟨owner, hmem, hname, howns⟩
  obtain rfl := eq_of_ownsHandle hd hmem hname howns
  rw [ownsHandle_eq_not_isTaggedView, hview] at howns
  cases howns

/-- **The handles of a C type have exactly one owner, unless a view stands under the name of the
    type.** All views over an owned type derive from its owner, which is a root. A view can stand
    there only if it has a tag accessor, and then nobody owns the handles. -/
theorem owned_or_below_view (t : ClassTable) {c : ObjectClass} (hc : c ∈ t.toList) :
    ∃ d, t.get? c.name = some d ∧
      (d.isTaggedView = false ∧ t.Owned c d ∨
        d.isTaggedView = true ∧ d.typeTagAccessor ≠ none ∧
          ¬ ∃ owner ∈ t.toList, owner.name = c.name ∧ owner.ownsHandle = true) := by
  cases hview : c.isTaggedView with
  | false =>
      have hself : t.get? c.name = some c :=
        ClassTable.get?_eq_some_iff.2 ⟨hc, isTaggedView_eq_false_iff.1 hview⟩
      exact ⟨c, hself, Or.inl ⟨hview, owned_of_get? hc hself hview⟩⟩
  | true =>
      obtain ⟨d, hd, haccessor⟩ := exists_base hc hview
      refine ⟨d, hd, ?_⟩
      cases hbase : d.isTaggedView with
      | false => exact Or.inl ⟨rfl, owned_of_get? hc hd hbase⟩
      | true => exact Or.inr ⟨rfl, haccessor, not_ownsHandle_of_view hd hbase⟩

theorem owned_or_below_view_scheduleNodeBand :
    ∃ t, ClassTable.ofClasses [scheduleNodeBand, scheduleNode] = .ok t ∧
      scheduleNodeBand ∈ t.toList ∧ t.Owned scheduleNodeBand scheduleNode := by
  obtain ⟨t, ht⟩ : ∃ t, ClassTable.ofClasses [scheduleNodeBand, scheduleNode] = .ok t := ⟨_, rfl⟩
  have hholds := holds_of_ofClasses ht
  have hmem : scheduleNodeBand ∈ t.toList := hholds.perm.mem_iff.2 (by simp)
  refine ⟨t, ht, hmem, ?_⟩
  have hget : t.get? scheduleNodeBand.name = some scheduleNode :=
    (hholds.get?_iff _ _).2 ⟨by simp, rfl⟩
  obtain ⟨d, hd, howned⟩ := owned_or_below_view t hmem
  obtain rfl : scheduleNode = d := Option.some.inj (hget.symm.trans hd)
  rcases howned with ⟨_, howned⟩ | ⟨hview, _⟩
  · exact howned
  · cases hview

/-- Bands with a tag of their own. -/
def taggedBand : ObjectClass :=
  { scheduleNodeBand with
    typeTagAccessor := some (.named "isl_schedule_node_band_get_type") }

/-- A view over the bands. -/
def bandTile : ObjectClass :=
  .viewOf taggedBand.key "isl_schedule_node_band_tile"

/-- A view with a tag accessor passes as the root of another view, whose C type then has no
    owner. -/
theorem not_owned_bandTile :
    ∃ t, ClassTable.ofClasses [scheduleNode, taggedBand, bandTile] = .ok t ∧
      bandTile ∈ t.toList ∧
      ¬ ∃ owner ∈ t.toList, owner.name = bandTile.name ∧ owner.ownsHandle = true := by
  obtain ⟨t, ht⟩ : ∃ t, ClassTable.ofClasses [scheduleNode, taggedBand, bandTile] = .ok t :=
    ⟨_, rfl⟩
  have hholds := holds_of_ofClasses ht
  have hbase : t.get? bandTile.name = some taggedBand :=
    (hholds.get?_iff _ _).2 ⟨by simp, rfl⟩
  exact ⟨t, ht, hholds.perm.mem_iff.2 (by simp), not_ownsHandle_of_view hbase rfl⟩

end HandleWrap
