import HandleWrap.Proofs.Locality
import Mathlib.Logic.Relation

set_option autoImplicit false

/-! # Chains of superclasses

A class is a subclass of another one exactly if a chain of listed superclasses leads from the first
to the second, however the listings run in cycles, repeat each other or part and meet again
(`isSubclass_iff_chain`). Whatever the search reaches stands on a chain
(`exists_path_of_reaches`). That it misses none rests on `Explored`: what has been met is not the
target, and its superclasses have been met or are pending, so a search that ends without the target
leaves a set of names that no chain leads out of. The search always ends, since every round takes
one listing off those that are left (`reachesWithin_eq`). Which constructors convert implicitly is
read off the same chains. -/

namespace HandleWrap

namespace ClassTable

variable {t : ClassTable} {sub target key name parent : String} {met pending : List String}

/-! ## Listed superclasses -/

/-- The name is a key, and the class under it lists `parent` as a superclass. -/
def Lists (t : ClassTable) (key parent : String) : Prop :=
  ∃ c, t.get? key = some c ∧ parent ∈ c.superclasses

theorem lists_iff : t.Lists key parent ↔ parent ∈ t.superclassesOf key := by
  unfold Lists superclassesOf
  cases t.get? key with
  | none => simp
  | some c => simp

/-- A chain of listed superclasses, of one step or more, leads from `sub` to `target`. -/
def Chain (t : ClassTable) (sub target : String) : Prop :=
  Relation.TransGen t.Lists sub target

/-- A chain is a listing and any number of listings above it. -/
theorem chain_iff : t.Chain sub target ↔
    ∃ parent ∈ t.superclassesOf sub, Relation.ReflTransGen t.Lists parent target := by
  simp only [Chain, Relation.TransGen.head'_iff, lists_iff]

/-! ## What the search reaches -/

/-- What the search reaches stands above one of the pending names. -/
theorem exists_path_of_reaches (h : t.reaches target met pending = true) :
    ∃ name ∈ pending, Relation.ReflTransGen t.Lists name target := by
  induction met, pending using reaches_induction t target with
  | done met => rw [reaches] at h; cases h
  | found met pending => exact ⟨target, List.mem_cons_self, .refl⟩
  | skip met name pending hne hmet ih =>
      rw [reaches_skip t hne hmet] at h
      obtain ⟨start, hstart, hpath⟩ := ih h
      exact ⟨start, List.mem_cons_of_mem _ hstart, hpath⟩
  | expand met name pending hne hmet ih =>
      rw [reaches_expand t hne hmet] at h
      obtain ⟨start, hstart, hpath⟩ := ih h
      rcases List.mem_append.1 hstart with hparent | hstart
      · -- the path begins one step above the name that was expanded
        exact ⟨name, List.mem_cons_self, hpath.head (lists_iff.2 hparent)⟩
      · exact ⟨start, List.mem_cons_of_mem _ hstart, hpath⟩

/-! ## What the search misses -/

/-- The state of a search that has not found the target: no name that it has met is the target, and
    the superclasses of such a name have been met or are pending. -/
structure Explored (t : ClassTable) (target : String) (met pending : List String) : Prop where
  missed : target ∉ met
  closed : ∀ name ∈ met, ∀ parent ∈ t.superclassesOf name, parent ∈ met ∨ parent ∈ pending

theorem explored_nil (t : ClassTable) (target : String) (pending : List String) :
    t.Explored target [] pending :=
  ⟨List.not_mem_nil, fun _ h => absurd h List.not_mem_nil⟩

/-- A pending name that has been met can be passed over. -/
theorem Explored.skip (h : t.Explored target met (name :: pending)) (hmet : name ∈ met) :
    t.Explored target met pending := by
  refine ⟨h.missed, fun child hchild parent hparent => ?_⟩
  rcases h.closed child hchild parent hparent with hparent | hparent
  · exact Or.inl hparent
  · rcases List.mem_cons.1 hparent with rfl | hparent
    · exact Or.inl hmet
    · exact Or.inr hparent

/-- A pending name can be met once its superclasses are pending. -/
theorem Explored.expand (h : t.Explored target met (name :: pending)) (hne : name ≠ target) :
    t.Explored target (name :: met) (t.superclassesOf name ++ pending) := by
  refine ⟨fun hmem => (List.mem_cons.1 hmem).elim (Ne.symm hne) h.missed,
    fun child hchild parent hparent => ?_⟩
  rcases List.mem_cons.1 hchild with rfl | hchild
  · exact Or.inr (List.mem_append_left _ hparent)
  · rcases h.closed child hchild parent hparent with hparent | hparent
    · exact Or.inl (List.mem_cons_of_mem _ hparent)
    · rcases List.mem_cons.1 hparent with rfl | hparent
      · exact Or.inl List.mem_cons_self
      · exact Or.inr (List.mem_append_right _ hparent)

/-- A search that ends without the target leaves a set of names that has all pending ones, not the
    target, and with each name the superclasses of it. -/
theorem exists_explored_of_reaches_eq_false (hexplored : t.Explored target met pending)
    (h : t.reaches target met pending = false) :
    ∃ all, met ⊆ all ∧ pending ⊆ all ∧ t.Explored target all [] := by
  induction met, pending using reaches_induction t target with
  | done met => exact ⟨met, List.Subset.refl met, List.nil_subset met, hexplored⟩
  | found met pending => rw [reaches_target] at h; cases h
  | skip met name pending hne hmet ih =>
      rw [reaches_skip t hne hmet] at h
      obtain ⟨all, hall, hpending, hclosed⟩ := ih (hexplored.skip hmet) h
      exact ⟨all, hall, List.cons_subset.2 ⟨hall hmet, hpending⟩, hclosed⟩
  | expand met name pending hne hmet ih =>
      rw [reaches_expand t hne hmet] at h
      obtain ⟨all, hall, hpending, hclosed⟩ := ih (hexplored.expand hne) h
      obtain ⟨hname, hall⟩ := List.cons_subset.1 hall
      exact ⟨all, hall, List.cons_subset.2 ⟨hname, (List.append_subset.1 hpending).2⟩, hclosed⟩

/-- No path leads out of such a set. -/
theorem Explored.mem_of_path (h : t.Explored target met []) (hname : name ∈ met)
    (hpath : Relation.ReflTransGen t.Lists name parent) : parent ∈ met := by
  induction hpath with
  | refl => exact hname
  | tail _ hlists ih =>
      rcases h.closed _ ih _ (lists_iff.1 hlists) with hmem | hmem
      · exact hmem
      · exact absurd hmem List.not_mem_nil

/-- **Subclasses are what chains lead from.** -/
theorem isSubclass_iff_chain (t : ClassTable) (sub : String) (c : ObjectClass) :
    t.isSubclass sub c = true ↔ t.Chain sub c.key := by
  rw [chain_iff, isSubclass]
  constructor
  · exact exists_path_of_reaches
  · rintro ⟨parent, hparent, hpath⟩
    by_contra hfalse
    obtain ⟨all, _, hpending, hclosed⟩ :=
      exists_explored_of_reaches_eq_false (t.explored_nil c.key _) (Bool.eq_false_iff.2 hfalse)
    exact hclosed.missed (hclosed.mem_of_path (hpending hparent) hpath)

/-! ## How long the search goes on -/

/-- The search cut off after a number of rounds: no answer if it is not over by then. -/
def reachesWithin (t : ClassTable) (target : String) :
    Nat → List String → List String → Option Bool
  | _, _, [] => some false
  | 0, _, _ :: _ => none
  | rounds + 1, met, name :: pending =>
    if name = target then some true
    else if name ∈ met then t.reachesWithin target rounds met pending
    else t.reachesWithin target rounds (name :: met) (t.superclassesOf name ++ pending)

/-- The number of superclasses that the classes under the keys list. -/
def listings (t : ClassTable) (keys : List String) : Nat :=
  (keys.flatMap t.superclassesOf).length

@[simp] theorem listings_cons (t : ClassTable) (key : String) (keys : List String) :
    t.listings (key :: keys) = (t.superclassesOf key).length + t.listings keys := by
  rw [listings, List.flatMap_cons, List.length_append]
  rfl

theorem listings_filter_le (t : ClassTable) (p : String → Bool) (keys : List String) :
    t.listings (keys.filter p) ≤ t.listings keys := by
  induction keys with
  | nil => exact Nat.le_refl 0
  | cons key keys ih =>
      rw [List.filter_cons]
      split <;> simp only [listings_cons] <;> omega

/-- Dropping a key takes its listings off. -/
theorem listings_filter_add_le (t : ClassTable) {keys : List String} (hname : name ∈ keys) :
    (t.superclassesOf name).length + t.listings (keys.filter fun key => !(key == name)) ≤
      t.listings keys := by
  induction keys with
  | nil => cases hname
  | cons key keys ih =>
      by_cases hkey : key = name
      · have hrest := t.listings_filter_le (fun key => !(key == name)) keys
        rw [List.filter_cons_of_neg (by simp [hkey]), listings_cons, hkey]
        omega
      · have hrest := ih ((List.mem_cons.1 hname).resolve_left (Ne.symm hkey))
        rw [List.filter_cons_of_pos (by simp [hkey]), listings_cons, listings_cons]
        omega

theorem superclassesOf_eq_nil (h : name ∉ t.classes.names) : t.superclassesOf name = [] := by
  unfold superclassesOf
  cases hget : t.get? name with
  | none => rfl
  | some c => exact absurd (mem_names_of_get? hget) h

/-- Meeting a name takes its listings off those of the keys that have not been met. -/
theorem listings_unmet_cons_le (t : ClassTable) (hmet : name ∉ met) :
    (t.superclassesOf name).length + t.listings (t.unmet (name :: met)) ≤
      t.listings (t.unmet met) := by
  rw [unmet_cons]
  by_cases hkey : name ∈ t.classes.names
  · exact t.listings_filter_add_le (List.mem_filter.2 ⟨hkey, by simpa using hmet⟩)
  · rw [superclassesOf_eq_nil hkey, List.length_nil, Nat.zero_add]
    exact t.listings_filter_le _ _

/-- **The search ends:** it takes at most one round for each pending name and for each listing of a
    key that has not been met. -/
theorem reachesWithin_eq {rounds : Nat}
    (h : pending.length + t.listings (t.unmet met) ≤ rounds) :
    t.reachesWithin target rounds met pending = some (t.reaches target met pending) := by
  induction met, pending using reaches_induction t target generalizing rounds with
  | done met => rw [reachesWithin, reaches]
  | found met pending =>
      obtain ⟨rounds, rfl⟩ : ∃ n, rounds = n + 1 := Nat.exists_eq_succ_of_ne_zero (by
        simp only [List.length_cons] at h; omega)
      rw [reachesWithin, if_pos rfl, reaches_target]
  | skip met name pending hne hmet ih =>
      simp only [List.length_cons] at h
      obtain ⟨rounds, rfl⟩ : ∃ n, rounds = n + 1 := ⟨rounds - 1, by omega⟩
      rw [reachesWithin, if_neg hne, if_pos hmet, reaches_skip t hne hmet]
      exact ih (by omega)
  | expand met name pending hne hmet ih =>
      have hlistings := t.listings_unmet_cons_le hmet
      simp only [List.length_cons] at h
      obtain ⟨rounds, rfl⟩ : ∃ n, rounds = n + 1 := ⟨rounds - 1, by omega⟩
      rw [reachesWithin, if_neg hne, if_neg hmet, reaches_expand t hne hmet]
      exact ih (by rw [List.length_append]; omega)

theorem unmet_nil (t : ClassTable) : t.unmet [] = t.classes.names := by
  simp [unmet]

end ClassTable

/-! ## Constructors that convert implicitly -/

variable {s : Settings} {t : ClassTable} {c : ObjectClass} {m : Member} {f : CFunction}

/-- A function converts implicitly if all that it takes is an object of a subclass. -/
theorem isImplicitConversion_iff :
    t.isImplicitConversion c f = true ↔ ∃ sub, f.TakesOnly sub ∧ t.isSubclass sub c = true := by
  unfold ClassTable.isImplicitConversion CFunction.TakesOnly
  split
  · next p hparams =>
      have hname : ∀ sub, p.type.handleName? = some sub ↔ p.type = .handle sub := fun sub => by
        cases p.type <;> simp [CType.handleName?]
      simp [hparams, Option.any_eq_true, hname]
  · next hparams =>
      refine iff_of_false Bool.false_ne_true ?_
      rintro ⟨sub, ⟨p, hp, _⟩, _⟩
      exact hparams p hp

/-- The declaration of a constructor that converts implicitly. -/
def DeclaresImplicit (code : Code) : Prop :=
  ∃ rest, code = ["  inline /* implicit */ " ++ rest]

/-- The two declarations of constructors part behind their first word. -/
theorem not_declaresImplicit_explicit (rest : String) :
    ¬ DeclaresImplicit ["  inline explicit " ++ rest] := by
  rintro ⟨rest', h⟩
  have hlist := congrArg String.toList (List.singleton_inj.1 h)
  simp at hlist

theorem declaresImplicit_iff {code : Code} (hkind : m.kind = .constructor)
    (h : memberDeclaration s t c m = .ok code) :
    DeclaresImplicit code ↔ t.isImplicitConversion c m.function = true := by
  obtain ⟨signature, _, rfl⟩ := memberDeclaration_eq_ok_iff.1 h
  have hqualifiers : t.qualifiers c m = if t.isImplicitConversion c m.function then
      "inline /* implicit */ " else "inline explicit " := by
    rw [ClassTable.qualifiers, hkind]
  rw [hqualifiers]
  split
  · next himplicit =>
      exact iff_of_true ⟨signature.text "" ++ ";", by rw [← String.append_assoc]; rfl⟩ himplicit
  · next himplicit =>
      refine iff_of_false ?_ himplicit
      rw [String.append_assoc]
      exact not_declaresImplicit_explicit _

/-- **The search for superclasses is exact and ends.** Within one round for each superclass that the
    start lists and for each one that the table lists, it answers whether a chain leads to the
    class. Hence a constructor is declared as an implicit conversion exactly if its only parameter
    is an object from whose C type a chain leads to the class. -/
theorem subclass_exact (t : ClassTable) (c : ObjectClass) :
    (∀ sub,
      t.reachesWithin c.key ((t.superclassesOf sub).length + t.listings t.classes.names) []
          (t.superclassesOf sub) = some (t.isSubclass sub c) ∧
        (t.isSubclass sub c = true ↔ t.Chain sub c.key)) ∧
      ∀ (s : Settings) (m : Member) (code : Code), m.kind = .constructor →
        memberDeclaration s t c m = .ok code →
        (DeclaresImplicit code ↔
          ∃ p sub, m.function.params = [p] ∧ p.type = .handle sub ∧ t.Chain sub c.key) := by
  refine ⟨fun sub => ⟨?_, t.isSubclass_iff_chain sub c⟩, fun s m code hkind h => ?_⟩
  · have hfuel : (t.superclassesOf sub).length + t.listings (t.unmet []) ≤
        (t.superclassesOf sub).length + t.listings t.classes.names :=
      Nat.le_of_eq (by rw [t.unmet_nil])
    exact ClassTable.reachesWithin_eq hfuel
  · simp only [declaresImplicit_iff hkind h, isImplicitConversion_iff, CFunction.TakesOnly,
      ClassTable.isSubclass_iff_chain]
    constructor
    · rintro ⟨sub, ⟨p, hparams, htype⟩, hchain⟩
      exact ⟨p, sub, hparams, htype, hchain⟩
    · rintro ⟨p, sub, hparams, htype, hchain⟩
      exact ⟨sub, ⟨p, hparams, htype⟩, hchain⟩

/-- The conversion of a basic set to a union set. -/
def fromBasicSet : Member where
  name := "isl_union_set_from_basic_set"
  function := {
    name := "isl_union_set_from_basic_set", returnType := .handle "isl_union_set"
    givesResult := true, params := [⟨"bset", .handle "isl_basic_set", .take⟩] }
  kind := .constructor

/-- Union sets, which a listing leads from to sets and back again. -/
def cyclicUnionSet : ObjectClass :=
  ((ObjectClass.named "isl_union_set").withSuperclass "isl_set").withConstructor
    fromBasicSet.function

/-- Basic sets list sets twice. -/
def basicSet : ObjectClass :=
  ((ObjectClass.named "isl_basic_set").withSuperclass "isl_set").withSuperclass "isl_set"

theorem subclass_exact_cyclicUnionSet :
    ∃ t code, ClassTable.ofClasses [basicSet, setClass, cyclicUnionSet] = .ok t ∧
      memberDeclaration .standard t cyclicUnionSet fromBasicSet = .ok code ∧
      t.Chain "isl_basic_set" "isl_union_set" ∧
      t.isSubclass "isl_basic_set" cyclicUnionSet = true ∧ DeclaresImplicit code := by
  obtain ⟨t, ht⟩ : Succeeds (ClassTable.ofClasses [basicSet, setClass, cyclicUnionSet]) := ⟨_, rfl⟩
  have hfirst : t.Lists "isl_basic_set" "isl_set" := by
    cases ht
    exact ⟨basicSet, rfl, by decide⟩
  have hsecond : t.Lists "isl_set" "isl_union_set" := by
    cases ht
    exact ⟨setClass, rfl, by decide⟩
  have hchain : t.Chain "isl_basic_set" "isl_union_set" := .head hfirst (.single hsecond)
  obtain ⟨code, hcode⟩ : Succeeds (memberDeclaration .standard t cyclicUnionSet fromBasicSet) := by
    cases ht
    exact ⟨_, rfl⟩
  obtain ⟨hsearch, hdeclared⟩ := subclass_exact t cyclicUnionSet
  exact ⟨t, code, ht, hcode, hchain, (hsearch "isl_basic_set").2.2 hchain,
    (hdeclared .standard fromBasicSet code rfl hcode).2 ⟨_, _, rfl, rfl, hchain⟩⟩

end HandleWrap
