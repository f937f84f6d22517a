import HandleWrap.ClassTable

set_option autoImplicit false

/-! # Callbacks and their user data

A parameter list that passes the check is a row of blocks (`Paired`): a parameter that is neither a
callback nor user data, or a callback whose signature ends in user data together with the user-data
parameter behind it. The check looks at one parameter at a time and keeps a flag for the one before;
`pairingProblem?_eq_none_iff` says that it accepts the rows of blocks and nothing else. All
functions of a table are such rows (`ClassTable.paired_of_mem`). -/

namespace HandleWrap

/-- Parameters in blocks: each callback is followed by its user data, and all else stands alone. -/
inductive Paired : List Param → Prop where
  | nil : Paired []
  | single {p : Param} {rest : List Param} (hcallback : p.type.isCallback = false)
      (hdata : p.type.isUserData = false) (hrest : Paired rest) : Paired (p :: rest)
  | callback {p data : Param} {rest : List Param} {signature : Callback}
      (hp : p.type = .callback signature) (hends : signature.endsInUserData = true)
      (hdata : data.type.isUserData = true) (hrest : Paired rest) : Paired (p :: data :: rest)

/-- What has to follow a callback: its user data, and blocks after that. -/
def DataFirst (params : List Param) : Prop :=
  ∃ data after, params = data :: after ∧ data.type.isUserData = true ∧ Paired after

/-! ## The block at the front -/

theorem paired_cons_single_iff {p : Param} {rest : List Param}
    (hcallback : p.type.isCallback = false) (hdata : p.type.isUserData = false) :
    Paired (p :: rest) ↔ Paired rest := by
  constructor
  · intro h
    cases h with
    | single _ _ hrest => exact hrest
    | callback hp _ _ _ => simp [hp, CType.isCallback] at hcallback
  · exact Paired.single hcallback hdata

theorem paired_cons_callback_iff {p : Param} {rest : List Param} {signature : Callback}
    (hp : p.type = .callback signature) :
    Paired (p :: rest) ↔ signature.endsInUserData = true ∧ DataFirst rest := by
  constructor
  · intro h
    cases h with
    | single hcallback _ _ => simp [hp, CType.isCallback] at hcallback
    | callback hp' hends hdata hrest =>
        obtain rfl : signature = _ := CType.callback.inj (hp.symm.trans hp')
        exact ⟨hends, _, _, rfl, hdata, hrest⟩
  · rintro ⟨hends, data, after, rfl, hdata, hafter⟩
    exact Paired.callback hp hends hdata hafter

/-- No block begins with user data. -/
theorem not_paired_cons_userData {p : Param} {rest : List Param}
    (hdata : p.type.isUserData = true) : ¬ Paired (p :: rest) := by
  intro h
  cases h with
  | single _ hp _ => rw [hdata] at hp; cases hp
  | callback hp _ _ _ => simp [hp, CType.isUserData] at hdata

theorem dataFirst_cons_iff {p : Param} {rest : List Param} :
    DataFirst (p :: rest) ↔ p.type.isUserData = true ∧ Paired rest := by
  constructor
  · rintro ⟨data, after, hcons, hdata, hafter⟩
    obtain ⟨rfl, rfl⟩ := List.cons.inj hcons
    exact ⟨hdata, hafter⟩
  · rintro ⟨hdata, hrest⟩
    exact ⟨p, rest, rfl, hdata, hrest⟩

/-- Behind a callback the look at the next parameter tells which of the two shapes is there. -/
theorem dataFirst_iff {params : List Param} :
    DataFirst params ↔ params.head?.any (·.type.isUserData) = true ∧
      (Paired params ∨ DataFirst params) := by
  cases params with
  | nil => simp [DataFirst]
  | cons p rest =>
      rw [List.head?_cons, Option.any_some, dataFirst_cons_iff]
      constructor
      · intro h
        exact ⟨h.1, Or.inr h⟩
      · rintro ⟨hdata, hpaired | h⟩
        · exact absurd hpaired (not_paired_cons_userData hdata)
        · exact h

/-! ## The check -/

/-- The check with its flag: after a callback the list may begin with the user data that the
    callback is waiting for. -/
theorem pairingProblem?_eq_none (function : String) (afterCallback : Bool) (params : List Param) :
    pairingProblem? function afterCallback params = none ↔
      Paired params ∨ afterCallback = true ∧ DataFirst params := by
  induction params generalizing afterCallback with
  | nil => simp [pairingProblem?, Paired.nil]
  | cons p rest ih =>
      -- the flag matters for a user-data parameter only, and a callback alone raises it
      rw [dataFirst_cons_iff]
      cases hp : p.type with
      | callback signature =>
          have hdata : (CType.callback signature).isUserData = false := rfl
          rw [paired_cons_callback_iff hp, dataFirst_iff]
          simp only [pairingProblem?, hp, hdata, Bool.false_eq_true, false_and, and_false, or_false]
          by_cases hends : signature.endsInUserData = true
          · by_cases hhead : rest.head?.any (·.type.isUserData) = true
            · simp [hends, hhead, ih]
            · simp [hends, hhead]
          · simp [hends]
      | userData =>
          have hdata : p.type.isUserData = true := by rw [hp]; rfl
          have hpaired : ¬ Paired (p :: rest) := not_paired_cons_userData hdata
          cases afterCallback with
          | false => simp [pairingProblem?, hp, hpaired]
          | true => simp [pairingProblem?, hp, hpaired, ih, CType.isUserData]
      | _ =>
          have hcallback : p.type.isCallback = false := by rw [hp]; rfl
          have hdata : p.type.isUserData = false := by rw [hp]; rfl
          rw [paired_cons_single_iff hcallback hdata]
          simp [pairingProblem?, hp, ih, CType.isUserData]

/-- **The check accepts exactly the lists of blocks.** -/
theorem pairingProblem?_eq_none_iff (function : String) (params : List Param) :
    pairingProblem? function false params = none ↔ Paired params := by
  rw [pairingProblem?_eq_none]
  simp

/-! ## What blocks give -/

/-- Every callback of a row of blocks ends in user data. -/
theorem Paired.endsInUserData {params : List Param} (h : Paired params) {p : Param}
    {signature : Callback} (hmem : p ∈ params) (hp : p.type = .callback signature) :
    signature.endsInUserData = true := by
  induction h with
  | nil => cases hmem
  | single hcallback _ _ ih =>
      rcases List.mem_cons.1 hmem with rfl | hmem
      · simp [hp, CType.isCallback] at hcallback
      · exact ih hmem
  | callback hp' hends hdata _ ih =>
      rcases List.mem_cons.1 hmem with rfl | hmem
      · rwa [CType.callback.inj (hp.symm.trans hp')]
      · rcases List.mem_cons.1 hmem with rfl | hmem
        · simp [hp, CType.isUserData] at hdata
        · exact ih hmem

/-- Nothing is wrong with a class of a table. -/
theorem ClassTable.problem?_of_mem (t : ClassTable) {c : ObjectClass} (hc : c ∈ t.toList) :
    c.problem? t.classes = none :=
  List.findSome?_eq_none_iff.1 t.valid c hc

/-- The parameters of every function of a table are in blocks. -/
theorem ClassTable.paired_of_mem (t : ClassTable) {c : ObjectClass} (hc : c ∈ t.toList)
    {f : CFunction} (hf : f ∈ c.functions) : Paired f.params := by
  have hclass := t.problem?_of_mem hc
  simp only [ObjectClass.problem?, Option.or_eq_none_iff] at hclass
  obtain ⟨_, _, _, _, hfunctions⟩ := hclass
  have hf := List.findSome?_eq_none_iff.1 hfunctions f hf
  rw [CFunction.problem?] at hf
  split at hf
  · cases hf
  · exact (pairingProblem?_eq_none_iff f.name f.params).1 hf

end HandleWrap
