set_option autoImplicit false

/-! # Maps from names, in order of the names

A `NameMap` holds one value per name, in strictly increasing code-point order of the names. The
order is part of the type, so two maps with the same entries are equal however they were built, and
walking through a map never depends on the order of insertion. -/

namespace HandleWrap

/-- A map from names to values, listed in strictly increasing order of the names. -/
structure NameMap (α : Type) where
  entries : List (String × α)
  sorted : entries.Pairwise fun a b => a.1 < b.1

namespace NameMap

variable {α : Type}

/-- The map without entries. -/
def empty : NameMap α :=
  ⟨[], List.Pairwise.nil⟩

instance : Inhabited (NameMap α) := ⟨empty⟩

/-- The value of a name. -/
def get? (m : NameMap α) (name : String) : Option α :=
  m.entries.lookup name

/-- Whether a name has a value. -/
def contains (m : NameMap α) (name : String) : Bool :=
  (m.get? name).isSome

/-- The names in order. -/
def names (m : NameMap α) : List String :=
  m.entries.map (·.1)

/-- The values in order of their names. -/
def values (m : NameMap α) : List α :=
  m.entries.map (·.2)

/-- Number of entries. -/
def size (m : NameMap α) : Nat :=
  m.entries.length

/-- Puts an entry at its place, in place of an entry of the same name. -/
def insertEntry (name : String) (value : α) : List (String × α) → List (String × α)
  | [] => [(name, value)]
  | entry :: rest =>
    if name < entry.1 then (name, value) :: entry :: rest
    else if name = entry.1 then (name, value) :: rest
    else entry :: insertEntry name value rest

theorem mem_insertEntry {name : String} {value : α} {entries : List (String × α)}
    {e : String × α} (h : e ∈ insertEntry name value entries) :
    e = (name, value) ∨ e ∈ entries := by
  induction entries with
  | nil => simpa [insertEntry] using h
  | cons entry rest ih =>
    simp only [insertEntry] at h
    split at h
    · simpa using h
    · split at h
      · simp only [List.mem_cons] at h ⊢
        exact h.imp_right Or.inr
      · simp only [List.mem_cons] at h ⊢
        rcases h with h | h
        · exact Or.inr (Or.inl h)
        · exact (ih h).imp_right Or.inr

theorem sorted_insertEntry (name : String) (value : α) {entries : List (String × α)}
    (h : entries.Pairwise fun a b => a.1 < b.1) :
    (insertEntry name value entries).Pairwise fun a b => a.1 < b.1 := by
  induction entries with
  | nil => simp [insertEntry]
  | cons entry rest ih =>
    have hrest := List.pairwise_cons.1 h
    simp only [insertEntry]
    split
    · next hlt =>
      refine List.pairwise_cons.2 ⟨fun e he => ?_, h⟩
      rcases List.mem_cons.1 he with rfl | he
      · exact hlt
      · exact String.lt_trans hlt (hrest.1 e he)
    · next hnlt =>
      split
      · next heq => exact List.pairwise_cons.2 ⟨fun e he => heq ▸ hrest.1 e he, hrest.2⟩
      · next hne =>
        refine List.pairwise_cons.2 ⟨fun e he => ?_, ih hrest.2⟩
        rcases mem_insertEntry he with rfl | he
        · exact String.not_le.1 fun hle => hne (String.le_antisymm hle (String.not_lt.1 hnlt))
        · exact hrest.1 e he

/-- The map with the value of `name` set. -/
def insert (m : NameMap α) (name : String) (value : α) : NameMap α :=
  ⟨insertEntry name value m.entries, sorted_insertEntry name value m.sorted⟩

theorem lookup_cons_eq_ite (key name : String) (value : α) (entries : List (String × α)) :
    ((name, value) :: entries).lookup key =
      if key = name then some value else entries.lookup key := by
  by_cases h : key = name
  · simp [h]
  · rw [List.lookup_cons, beq_eq_false_iff_ne.2 h, if_neg h]

theorem lookup_insertEntry (name key : String) (value : α) (entries : List (String × α)) :
    (insertEntry name value entries).lookup key =
      if key = name then some value else entries.lookup key := by
  induction entries with
  | nil => rw [insertEntry, lookup_cons_eq_ite]
  | cons entry rest ih =>
    obtain ⟨entryName, entryValue⟩ := entry
    simp only [insertEntry]
    split
    · rw [lookup_cons_eq_ite]
    · split
      · next heq =>
        simp only [lookup_cons_eq_ite, ← heq]
        split <;> rfl
      · next hne =>
        simp only [lookup_cons_eq_ite, ih]
        split
        · next hkey => rw [if_neg fun h => hne (h.symm.trans hkey)]
        · rfl

/-- Setting the value of a name leaves those of all other names. -/
theorem get?_insert (m : NameMap α) (name key : String) (value : α) :
    (m.insert name value).get? key = if key = name then some value else m.get? key :=
  lookup_insertEntry name key value m.entries

/-- A name has the value that it is listed with. -/
theorem lookup_eq_some_iff {entries : List (String × α)}
    (h : entries.Pairwise fun a b => a.1 < b.1) {name : String} {value : α} :
    entries.lookup name = some value ↔ (name, value) ∈ entries := by
  induction entries with
  | nil => simp
  | cons entry rest ih =>
    obtain ⟨entryName, entryValue⟩ := entry
    have hrest := List.pairwise_cons.1 h
    rw [lookup_cons_eq_ite, List.mem_cons]
    split
    · next heq =>
      -- behind an entry its name does not come again
      have hnot : (name, value) ∉ rest := fun hmem =>
        String.lt_irrefl name (heq ▸ hrest.1 (name, value) hmem)
      rw [or_iff_left hnot, heq, Option.some.injEq, Prod.mk.injEq, and_iff_right rfl]
      exact eq_comm
    · next hne => simp [hne, ih hrest.2]

theorem get?_eq_some_iff (m : NameMap α) {name : String} {value : α} :
    m.get? name = some value ↔ (name, value) ∈ m.entries :=
  lookup_eq_some_iff m.sorted

theorem contains_eq_true_iff (m : NameMap α) {name : String} :
    m.contains name = true ↔ name ∈ m.names := by
  rw [contains, Option.isSome_iff_exists, names, List.mem_map]
  constructor
  · rintro ⟨value, h⟩
    exact ⟨(name, value), m.get?_eq_some_iff.1 h, rfl⟩
  · rintro ⟨⟨_, value⟩, hmem, rfl⟩
    exact ⟨value, m.get?_eq_some_iff.2 hmem⟩

/-- An entry with a new name is put between the others. -/
theorem perm_insertEntry {name : String} (value : α) {entries : List (String × α)}
    (hnew : name ∉ entries.map (·.1)) :
    (insertEntry name value entries).Perm ((name, value) :: entries) := by
  induction entries with
  | nil => exact List.Perm.refl _
  | cons entry rest ih =>
    rw [List.map_cons, List.mem_cons, not_or] at hnew
    simp only [insertEntry]
    split
    · exact List.Perm.refl _
    · rw [if_neg hnew.1]
      exact ((ih hnew.2).cons entry).trans (List.Perm.swap ..)

/-- The map of a list of entries; of several entries for one name the last counts. -/
def ofList (entries : List (String × α)) : NameMap α :=
  entries.foldl (fun m e => m.insert e.1 e.2) empty

/-- A map is determined by its entries. -/
theorem ext {m n : NameMap α} (h : m.entries = n.entries) : m = n := by
  cases m; cases n; cases h; rfl

/-- An entry behind all others is put at the end. -/
theorem insertEntry_of_forall_lt {name : String} (value : α) {entries : List (String × α)}
    (h : ∀ e ∈ entries, e.1 < name) :
    insertEntry name value entries = entries ++ [(name, value)] := by
  induction entries with
  | nil => rfl
  | cons entry rest ih =>
    have hlt : entry.1 < name := h entry List.mem_cons_self
    have hne : name ≠ entry.1 := fun heq => String.lt_irrefl name (heq ▸ hlt)
    rw [insertEntry, if_neg (String.lt_asymm hlt), if_neg hne,
      ih fun e he => h e (List.mem_cons_of_mem _ he), List.cons_append]

/-- Entries that come in order are put one behind the other. -/
theorem entries_foldl_insert (m : NameMap α) {entries : List (String × α)}
    (h : (m.entries ++ entries).Pairwise fun a b => a.1 < b.1) :
    (entries.foldl (fun m e => m.insert e.1 e.2) m).entries = m.entries ++ entries := by
  induction entries generalizing m with
  | nil => exact (List.append_nil _).symm
  | cons e rest ih =>
    have hlast : ∀ a ∈ m.entries, a.1 < e.1 := fun a ha =>
      (List.pairwise_append.1 h).2.2 a ha e List.mem_cons_self
    have hinsert : (m.insert e.1 e.2).entries = m.entries ++ [e] :=
      insertEntry_of_forall_lt e.2 hlast
    have hsplit : m.entries ++ e :: rest = (m.insert e.1 e.2).entries ++ rest := by
      rw [hinsert, List.append_assoc, List.singleton_append]
    rw [List.foldl_cons, ih _ (hsplit ▸ h), hsplit]

/-- A map is the map of its own entries. -/
theorem ofList_entries (m : NameMap α) : ofList m.entries = m :=
  ext (entries_foldl_insert empty m.sorted)

end NameMap

end HandleWrap
