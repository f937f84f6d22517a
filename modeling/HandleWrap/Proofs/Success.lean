import HandleWrap.GenerationError
import Mathlib.Data.List.Forall2

set_option autoImplicit false

/-! # Work that succeeds

Generation is a chain of pieces of work, each of which may fail. A chain comes to a result exactly
if every piece of it does (`succeeds_bind_iff`, `succeeds_mapM_iff`), and what it comes to is read
off piece by piece (`bind_eq_ok_iff`, `mapM_eq_ok_iff`). Attributing errors to a function changes
no result. Two chains that are compared with each other are compared piece by piece (`Alike`). -/

namespace HandleWrap

variable {ε α β : Type}

/-! ## Results of a chain -/

theorem bind_eq_ok_iff {work : Except ε α} {next : α → Except ε β} {b : β} :
    (work >>= next) = .ok b ↔ ∃ a, work = .ok a ∧ next a = .ok b := by
  cases work with
  | error e => simp [bind, Except.bind]
  | ok a => simp [bind, Except.bind]

theorem pure_eq_ok_iff {a b : α} : (pure a : Except ε α) = .ok b ↔ a = b := by
  simp [pure, Except.pure]

/-- Nothing can go wrong in what is done with the result. -/
theorem bind_pure_eq_ok_iff {work : Except ε α} {f : α → β} {b : β} :
    (work >>= fun a => pure (f a)) = .ok b ↔ ∃ a, work = .ok a ∧ b = f a := by
  rw [bind_eq_ok_iff]
  refine exists_congr fun a => and_congr_right fun _ => ?_
  rw [pure_eq_ok_iff, eq_comm]

/-- The results of a piece of work on every element stand in the order of the elements. -/
theorem mapM_eq_ok_iff {f : α → Except ε β} {as : List α} {bs : List β} :
    as.mapM f = .ok bs ↔ List.Forall₂ (fun a b => f a = .ok b) as bs := by
  induction as generalizing bs with
  | nil =>
      rw [List.mapM_nil, pure_eq_ok_iff, List.forall₂_nil_left_iff]
      exact eq_comm
  | cons a as ih =>
      rw [List.mapM_cons, bind_eq_ok_iff, List.forall₂_cons_left_iff]
      constructor
      · rintro ⟨b, hb, hrest⟩
        obtain ⟨rest, hmap, hpure⟩ := bind_eq_ok_iff.1 hrest
        exact ⟨b, rest, hb, ih.1 hmap, (pure_eq_ok_iff.1 hpure).symm⟩
      · rintro ⟨b, rest, hb, hmap, rfl⟩
        exact ⟨b, hb, bind_eq_ok_iff.2 ⟨rest, ih.2 hmap, rfl⟩⟩

/-! ## Success -/

/-- The work comes to a result. -/
def Succeeds (work : Except ε α) : Prop :=
  ∃ a, work = .ok a

@[simp] theorem succeeds_pure (a : α) : Succeeds (pure a : Except ε α) :=
  ⟨a, rfl⟩

@[simp] theorem not_succeeds_error (e : ε) : ¬ Succeeds (.error e : Except ε α) := by
  rintro ⟨a, h⟩
  cases h

@[simp] theorem not_succeeds_throw (e : ε) : ¬ Succeeds (throw e : Except ε α) :=
  not_succeeds_error e

/-- A chain succeeds exactly if both of its pieces do, where the success of the second does not hang
    on the result of the first. -/
theorem succeeds_bind_iff {work : Except ε α} {next : α → Except ε β} {P : Prop}
    (h : ∀ a, work = .ok a → (Succeeds (next a) ↔ P)) :
    Succeeds (work >>= next) ↔ Succeeds work ∧ P := by
  constructor
  · rintro ⟨b, hb⟩
    obtain ⟨a, ha, hnext⟩ := bind_eq_ok_iff.1 hb
    exact ⟨⟨a, ha⟩, (h a ha).1 ⟨b, hnext⟩⟩
  · rintro ⟨⟨a, ha⟩, hP⟩
    obtain ⟨b, hb⟩ := (h a ha).2 hP
    exact ⟨b, bind_eq_ok_iff.2 ⟨a, ha, hb⟩⟩

/-- Nothing can go wrong after the work. -/
theorem succeeds_bind_pure_iff {work : Except ε α} {f : α → β} :
    Succeeds (work >>= fun a => pure (f a)) ↔ Succeeds work := by
  have hnext : ∀ a, work = .ok a → (Succeeds (pure (f a) : Except ε β) ↔ True) := fun a _ =>
    iff_of_true (succeeds_pure (f a)) trivial
  rw [succeeds_bind_iff hnext, and_true]

/-- Work on every element of a list succeeds exactly if it does on each of them. -/
theorem succeeds_mapM_iff {f : α → Except ε β} {as : List α} :
    Succeeds (as.mapM f) ↔ ∀ a ∈ as, Succeeds (f a) := by
  induction as with
  | nil => simp
  | cons a as ih =>
      rw [List.mapM_cons, List.forall_mem_cons, ← ih]
      exact succeeds_bind_iff fun _ _ => succeeds_bind_pure_iff

/-- Work on every element and its position, which succeeds or fails by the element alone. -/
theorem succeeds_mapM_zipIdx_iff {f : α × Nat → Except ε β} {P : α → Prop}
    {as : List α} (h : ∀ a i, Succeeds (f (a, i)) ↔ P a) :
    Succeeds (as.zipIdx.mapM f) ↔ ∀ a ∈ as, P a := by
  have hfst : as.zipIdx.map Prod.fst = as := List.zipIdx_map_fst 0 as
  rw [succeeds_mapM_iff]
  constructor
  · intro hall a ha
    rw [← hfst] at ha
    obtain ⟨⟨_, i⟩, hmem, rfl⟩ := List.mem_map.1 ha
    exact (h _ i).1 (hall _ hmem)
  · rintro hall ⟨a, i⟩ hmem
    have ha : a ∈ as.zipIdx.map Prod.fst := List.mem_map.2 ⟨(a, i), hmem, rfl⟩
    rw [hfst] at ha
    exact (h a i).2 (hall a ha)

/-! ## Results of lists -/

section
variable {γ : Type} {R : α → γ → Prop} {as part : List α} {results : List γ}

/-- What is made of a part of a list is a part of what is made of the list. -/
theorem exists_sublist_of_forall₂ (h : part.Sublist as) (hresults : List.Forall₂ R as results) :
    ∃ partResults, List.Forall₂ R part partResults ∧ partResults.Sublist results := by
  induction h generalizing results with
  | slnil => exact ⟨[], .nil, List.nil_sublist _⟩
  | cons _ _ ih =>
      cases hresults with
      | cons _ hresults =>
          obtain ⟨partResults, hpart, hsub⟩ := ih hresults
          exact ⟨partResults, hpart, hsub.cons _⟩
  | cons_cons _ _ ih =>
      cases hresults with
      | cons hhead hresults =>
          obtain ⟨partResults, hpart, hsub⟩ := ih hresults
          exact ⟨_ :: partResults, .cons hhead hpart, hsub.cons_cons _⟩

/-- Every element has a result. -/
theorem exists_mem_of_forall₂ (hresults : List.Forall₂ R as results) {a : α} (ha : a ∈ as) :
    ∃ result ∈ results, R a result := by
  obtain ⟨partResults, hpart, hsub⟩ :=
    exists_sublist_of_forall₂ (List.singleton_sublist.2 ha) hresults
  obtain ⟨result, _, hresult, _, rfl⟩ := List.forall₂_cons_left_iff.1 hpart
  exact ⟨result, hsub.subset List.mem_cons_self, hresult⟩

/-- What is made of an element and its position stands at the same position. -/
theorem exists_at_of_forall₂_zipIdx {R : α × Nat → γ → Prop} {start : Nat}
    (hresults : List.Forall₂ R (as.zipIdx start) results) {i : Nat} {a : α}
    (ha : as[i]? = some a) : ∃ result, results[i]? = some result ∧ R (a, start + i) result := by
  induction as generalizing start results i with
  | nil => simp at ha
  | cons first rest ih =>
      rw [List.zipIdx_cons, List.forall₂_cons_left_iff] at hresults
      obtain ⟨result, results, hfirst, hrest, rfl⟩ := hresults
      cases i with
      | zero => exact ⟨result, rfl, Option.some.inj ha ▸ hfirst⟩
      | succ i =>
          obtain ⟨result, hresult, hR⟩ := ih hrest (by simpa using ha)
          exact ⟨result, by simpa using hresult, by rwa [Nat.add_assoc, Nat.add_comm 1] at hR⟩

/-- What is picked from one list is picked from the other if it is so pair by pair. -/
theorem filterMap_eq_of_forall₂ {pick : α → Option β} {pick' : γ → Option β}
    (hresults : List.Forall₂ R as results)
    (hpick : ∀ a ∈ as, ∀ result, R a result → pick a = pick' result) :
    as.filterMap pick = results.filterMap pick' := by
  induction hresults with
  | nil => rfl
  | cons hhead _ ih =>
      obtain ⟨hfirst, hrest⟩ := List.forall_mem_cons.1 hpick
      rw [List.filterMap_cons, List.filterMap_cons, hfirst _ hhead, ih hrest]

/-- What holds of each result by itself holds of all of them. -/
theorem forall_mem_of_forall₂ {P : γ → Prop} (hresults : List.Forall₂ R as results)
    (hP : ∀ a ∈ as, ∀ result, R a result → P result) : ∀ result ∈ results, P result := by
  induction hresults with
  | nil => exact fun _ h => absurd h List.not_mem_nil
  | cons hhead _ ih =>
      obtain ⟨hfirst, hrest⟩ := List.forall_mem_cons.1 hP
      exact List.forall_mem_cons.2 ⟨hfirst _ hhead, ih hrest⟩

end

/-! ## Attributed work -/

theorem mapError_eq_ok_iff {δ : Type} {wrap : ε → δ} {work : Except ε α} {a : α} :
    work.mapError wrap = .ok a ↔ work = .ok a := by
  cases work with
  | error e => simp [Except.mapError]
  | ok a => simp [Except.mapError]

theorem attributed_eq_ok_iff {name : String} {work : Except GenerationError α} {a : α} :
    attributed name work = .ok a ↔ work = .ok a := by
  cases work with
  | error e => simp [attributed, Except.mapError]
  | ok a => simp [attributed, Except.mapError]

theorem attributed_eq_error_iff {name : String} {work : Except GenerationError α}
    {e : GenerationError} :
    attributed name work = .error e ↔ ∃ cause, work = .error cause ∧ cause.inFunction name = e := by
  cases work with
  | error e => simp [attributed, Except.mapError]
  | ok a => simp [attributed, Except.mapError]

theorem succeeds_attributed_iff {name : String} {work : Except GenerationError α} :
    Succeeds (attributed name work) ↔ Succeeds work := by
  simp only [Succeeds, attributed_eq_ok_iff]

/-! ## Two runs -/

/-- Two pieces of work end alike: with the same error, or with results that are related. -/
inductive Alike (R : α → β → Prop) : Except ε α → Except ε β → Prop where
  | ok {a : α} {b : β} (h : R a b) : Alike R (.ok a) (.ok b)
  | error (e : ε) : Alike R (.error e) (.error e)

section
variable {γ δ : Type} {R : α → β → Prop} {Q : γ → δ → Prop}

theorem alike_self {R : α → α → Prop} (hR : ∀ a, R a a) (work : Except ε α) :
    Alike R work work := by
  cases work with
  | error e => exact .error e
  | ok a => exact .ok (hR a)

/-- Two chains end alike if their pieces do, one by one. -/
theorem Alike.bind {first : Except ε α} {second : Except ε β} {next : α → Except ε γ}
    {next' : β → Except ε δ} (h : Alike R first second)
    (hnext : ∀ a b, R a b → Alike Q (next a) (next' b)) :
    Alike Q (first >>= next) (second >>= next') := by
  cases h with
  | ok h => exact hnext _ _ h
  | error e => exact .error e

/-- Two chains with the same beginning. -/
theorem alike_bind_self {work : Except ε α} {next : α → Except ε γ} {next' : α → Except ε δ}
    (h : ∀ a, work = .ok a → Alike Q (next a) (next' a)) :
    Alike Q (work >>= next) (work >>= next') := by
  cases work with
  | error e => exact .error e
  | ok a => exact h a rfl

theorem alike_mapM {f : γ → Except ε α} {g : γ → Except ε β} {items : List γ}
    (h : ∀ item ∈ items, Alike R (f item) (g item)) :
    Alike (List.Forall₂ R) (items.mapM f) (items.mapM g) := by
  induction items with
  | nil => exact .ok .nil
  | cons first rest ih =>
      obtain ⟨hfirst, hrest⟩ := List.forall_mem_cons.1 h
      rw [List.mapM_cons, List.mapM_cons]
      exact hfirst.bind fun a b hab => (ih hrest).bind fun as bs habs => .ok (.cons hab habs)

theorem Alike.attributed {first : Except GenerationError α} {second : Except GenerationError β}
    (h : Alike R first second) (name : String) :
    Alike R (HandleWrap.attributed name first) (HandleWrap.attributed name second) := by
  cases h with
  | ok h => exact .ok h
  | error e => exact .error _

/-- Work on every element is the same if it is so on each of them. -/
theorem mapM_congr {f g : α → Except ε β} {items : List α}
    (h : ∀ item ∈ items, f item = g item) : items.mapM f = items.mapM g := by
  induction items with
  | nil => rfl
  | cons first rest ih =>
      obtain ⟨hfirst, hrest⟩ := List.forall_mem_cons.1 h
      rw [List.mapM_cons, List.mapM_cons, hfirst, ih hrest]

/-- Work that comes to the same results is the same. -/
theorem Alike.eq {first second : Except ε α} {R : α → α → Prop} (h : Alike R first second)
    (hR : ∀ a b, R a b → a = b) : first = second := by
  cases h with
  | ok h => rw [hR _ _ h]
  | error e => rfl

end

end HandleWrap
