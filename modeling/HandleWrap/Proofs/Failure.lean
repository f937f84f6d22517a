import HandleWrap.Proofs.Success

set_option autoImplicit false

/-! # Work that fails

A chain of pieces of work fails with the error of its first piece that fails. `FirstFailure` says of
a list of parts at which one that is and with what error, and `FailsLike` says that a chain fails
like a list of parts; it is put together along the chain (`FailsLike.bind`, `failsLike_mapM`).
`FailsWith` follows the kind of the errors instead. -/

namespace HandleWrap

variable {ε α β γ : Type}

/-! ## Errors of a chain -/

theorem bind_eq_error_iff {work : Except ε α} {next : α → Except ε β} {e : ε} :
    (work >>= next) = .error e ↔ work = .error e ∨ ∃ a, work = .ok a ∧ next a = .error e := by
  cases work with
  | error e => simp [bind, Except.bind]
  | ok a => simp [bind, Except.bind]

/-- A chain fails at one of its two pieces, where the failure of the second does not hang on the
    result of the first. -/
theorem bind_eq_error_iff_or {work : Except ε α} {next : α → Except ε β} {e : ε} {P : Prop}
    (h : ∀ a, next a = .error e ↔ P) :
    (work >>= next) = .error e ↔ work = .error e ∨ Succeeds work ∧ P := by
  rw [bind_eq_error_iff]
  simp only [h, exists_and_right, Succeeds]

/-- Nothing fails after the work. -/
theorem bind_pure_eq_error_iff {work : Except ε α} {f : α → β} {e : ε} :
    (work >>= fun a => pure (f a)) = .error e ↔ work = .error e := by
  rw [bind_eq_error_iff, or_iff_left]
  rintro ⟨a, _, h⟩
  cases h

theorem succeeds_iff_forall_ne {work : Except ε α} : Succeeds work ↔ ∀ e, work ≠ .error e := by
  cases work with
  | error e => exact iff_of_false (not_succeeds_error e) fun h => h e rfl
  | ok a => exact iff_of_true ⟨a, rfl⟩ fun e h => by cases h

/-! ## The first failure -/

/-- `FirstFailure work items item e`: the work succeeds on the items up to `item`, on which it fails
    with the error `e`. -/
inductive FirstFailure (work : α → Except ε β) : List α → α → ε → Prop where
  | head {item : α} {rest : List α} {e : ε} (h : work item = .error e) :
      FirstFailure work (item :: rest) item e
  | tail {first item : α} {rest : List α} {e : ε} (hfirst : Succeeds (work first))
      (h : FirstFailure work rest item e) : FirstFailure work (first :: rest) item e

variable {work : α → Except ε β} {items : List α} {item : α} {e : ε}

theorem FirstFailure.eq_error (h : FirstFailure work items item e) : work item = .error e := by
  induction h with
  | head h => exact h
  | tail _ _ ih => exact ih

theorem FirstFailure.mem (h : FirstFailure work items item e) : item ∈ items := by
  induction h with
  | head _ => exact List.mem_cons_self
  | tail _ _ ih => exact List.mem_cons_of_mem _ ih

theorem not_firstFailure_nil : ¬ FirstFailure work [] item e := by
  rintro ⟨⟩

theorem exists_firstFailure_cons_iff {first : α} {rest : List α} :
    (∃ item, FirstFailure work (first :: rest) item e) ↔
      work first = .error e ∨ Succeeds (work first) ∧ ∃ item, FirstFailure work rest item e := by
  constructor
  · rintro ⟨item, h⟩
    cases h with
    | head h => exact Or.inl h
    | tail hfirst h => exact Or.inr ⟨hfirst, item, h⟩
  · rintro (h | ⟨hfirst, item, h⟩)
    · exact ⟨first, .head h⟩
    · exact ⟨item, .tail hfirst h⟩

/-- Of two lists the second one counts only if nothing fails in the first. -/
theorem exists_firstFailure_append_iff {front back : List α} :
    (∃ item, FirstFailure work (front ++ back) item e) ↔
      (∃ item, FirstFailure work front item e) ∨
        (∀ item ∈ front, Succeeds (work item)) ∧ ∃ item, FirstFailure work back item e := by
  induction front with
  | nil => simp [not_firstFailure_nil]
  | cons first rest ih =>
      rw [List.cons_append, exists_firstFailure_cons_iff, exists_firstFailure_cons_iff, ih,
        List.forall_mem_cons]
      tauto

theorem exists_firstFailure_map_iff {f : γ → α} {items : List γ} :
    (∃ item, FirstFailure work (items.map f) item e) ↔
      ∃ item, FirstFailure (fun item => work (f item)) items item e := by
  induction items with
  | nil => simp [not_firstFailure_nil]
  | cons first rest ih =>
      rw [List.map_cons, exists_firstFailure_cons_iff, exists_firstFailure_cons_iff, ih]

/-- Either nothing fails in a list, or something fails first. -/
theorem forall_succeeds_iff :
    (∀ item ∈ items, Succeeds (work item)) ↔ ∀ e, ¬ ∃ item, FirstFailure work items item e := by
  induction items with
  | nil => simp [not_firstFailure_nil]
  | cons first rest ih =>
      rw [List.forall_mem_cons, ih]
      simp only [exists_firstFailure_cons_iff, not_or, not_and]
      constructor
      · rintro ⟨hfirst, hrest⟩ e
        exact ⟨succeeds_iff_forall_ne.1 hfirst e, fun _ => hrest e⟩
      · intro h
        have hfirst := succeeds_iff_forall_ne.2 fun e => (h e).1
        exact ⟨hfirst, fun e => (h e).2 hfirst⟩

/-! ## Chains of parts -/

/-- The chain fails like a list of parts: with the error of the first part that fails. -/
def FailsLike (chain : Except ε α) (part : γ → Except ε β) (parts : List γ) : Prop :=
  ∀ e, chain = .error e ↔ ∃ p, FirstFailure part parts p e

section
variable {chain : Except ε α} {part : γ → Except ε β} {parts rest : List γ} {δ : Type}

theorem failsLike_ok (a : α) : FailsLike (.ok a) part [] := fun e =>
  iff_of_false (fun h => by cases h) fun ⟨_, h⟩ => not_firstFailure_nil h

theorem failsLike_part (part : γ → Except ε β) (p : γ) : FailsLike (part p) part [p] := fun e => by
  rw [exists_firstFailure_cons_iff, or_iff_left]
  rintro ⟨_, _, h⟩
  exact not_firstFailure_nil h

theorem FailsLike.succeeds_iff (h : FailsLike chain part parts) :
    Succeeds chain ↔ ∀ p ∈ parts, Succeeds (part p) := by
  rw [succeeds_iff_forall_ne, forall_succeeds_iff]
  exact forall_congr' fun e => not_congr (h e)

theorem FailsLike.bind {next : α → Except ε δ} (h : FailsLike chain part parts)
    (hnext : ∀ a, FailsLike (next a) part rest) :
    FailsLike (chain >>= next) part (parts ++ rest) := fun e => by
  rw [bind_eq_error_iff_or fun a => hnext a e, exists_firstFailure_append_iff, h e,
    h.succeeds_iff]

theorem FailsLike.bind_pure (h : FailsLike chain part parts) (f : α → δ) :
    FailsLike (chain >>= fun a => pure (f a)) part parts := by
  rw [← List.append_nil parts]
  exact h.bind fun a => failsLike_ok (f a)

/-- The parts under other names. -/
theorem FailsLike.map (part' : δ → Except ε β) (f : γ → δ)
    (h : FailsLike chain (fun p => part' (f p)) parts) : FailsLike chain part' (parts.map f) :=
  fun e => (h e).trans exists_firstFailure_map_iff.symm

/-- **Work on every element of a list fails like the parts of all elements in order.** -/
theorem failsLike_mapM {parts : α → List γ} (h : ∀ a, FailsLike (work a) part (parts a))
    (items : List α) : FailsLike (items.mapM work) part (items.flatMap parts) := by
  induction items with
  | nil => exact failsLike_ok []
  | cons first rest ih =>
      rw [List.mapM_cons, List.flatMap_cons]
      exact (h first).bind fun b => ih.bind_pure (b :: ·)

theorem failsLike_mapM_self (work : α → Except ε β) (items : List α) :
    FailsLike (items.mapM work) work items := by
  have heach := failsLike_mapM (failsLike_part work) items
  rwa [List.flatMap_singleton'] at heach

end

/-! ## Errors of one kind -/

/-- Whatever the work fails with is `P`. -/
def FailsWith (P : ε → Prop) (work : Except ε α) : Prop :=
  ∀ e, work = .error e → P e

variable {P : ε → Prop}

theorem failsWith_ok (a : α) : FailsWith P (.ok a) :=
  fun e h => by cases h

theorem failsWith_pure (a : α) : FailsWith P (pure a : Except ε α) :=
  failsWith_ok a

theorem failsWith_error (h : P e) : FailsWith P (.error e : Except ε α) := by
  intro e he
  cases he
  exact h

theorem FailsWith.bind {work : Except ε α} {next : α → Except ε β} (h : FailsWith P work)
    (hnext : ∀ a, FailsWith P (next a)) : FailsWith P (work >>= next) := by
  intro e he
  rcases bind_eq_error_iff.1 he with he | ⟨a, _, he⟩
  · exact h e he
  · exact hnext a e he

theorem FailsWith.bind_pure {work : Except ε α} (h : FailsWith P work) (f : α → β) :
    FailsWith P (work >>= fun a => pure (f a)) :=
  h.bind fun a => failsWith_pure (f a)

theorem failsWith_mapM (h : ∀ item ∈ items, FailsWith P (work item)) :
    FailsWith P (items.mapM work) := by
  induction items with
  | nil => exact failsWith_pure []
  | cons first rest ih =>
      obtain ⟨hfirst, hrest⟩ := List.forall_mem_cons.1 h
      rw [List.mapM_cons]
      exact hfirst.bind fun b => (ih hrest).bind_pure (b :: ·)

end HandleWrap
