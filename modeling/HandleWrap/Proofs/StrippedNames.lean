import HandleWrap.Header
import HandleWrap.Proofs.Prefixes
import HandleWrap.Proofs.TableAcceptance

set_option autoImplicit false

/-! # Names without the prefix

A name of the C library loses as many UTF-8 bytes as the C prefix has, whatever they are. Where
these are not the bytes of whole characters, the name stays whole: `Cut` lists what can happen, and
`stripped_eq_iff` says that the list is complete and its cases exclude each other. Cutting undoes
putting the prefix in front, so names with the prefix stay apart without it, and so do the classes
of a table under their C++ names (`stripped_inverts_cName`). -/

namespace HandleWrap

/-- `Cut n name rest`: `rest` is left of the name where its first `n` UTF-8 bytes are to be cut
    off. -/
inductive Cut (n : Nat) (name : String) : String → Prop where
  /-- The bytes are those of whole characters. -/
  | off {front rest : String} (hname : name = front ++ rest) (hfront : front.utf8ByteSize = n) :
      Cut n name rest
  /-- The name has fewer bytes. -/
  | short (hname : name.utf8ByteSize < n) : Cut n name name
  /-- The cut would fall inside the character `c`. -/
  | inside {front back : String} {c : Char} (hname : name = front ++ String.singleton c ++ back)
      (hfront : front.utf8ByteSize < n) (hback : n < front.utf8ByteSize + c.utf8Size) :
      Cut n name name

/-- The classes of the table have distinct names in the forward declarations. -/
structure NamedApart (s : Settings) (t : ClassTable) : Prop where
  /-- Every class stands there under its name. -/
  lines : forwardDeclarations s t =
    "// forward declarations" :: t.toList.map fun c => "class " ++ s.className c ++ ";"
  distinct : ∀ c ∈ t.toList, ∀ d ∈ t.toList, c ≠ d → s.className c ≠ s.className d
  /-- No class is declared twice. -/
  once : (forwardDeclarations s t).Nodup

/-! ## Cutting off bytes -/

namespace Text

/-- Nothing is cut off a text that is too short. -/
theorem dropBytes?_of_short {n : Nat} {text : List Char} (h : byteCount text < n) :
    dropBytes? n text = none := by
  obtain ⟨k, rfl⟩ := Nat.exists_eq_add_of_lt h
  have hfront := dropBytes?_front (n := byteCount text + k + 1) text [] (by omega)
  rwa [List.append_nil, Nat.add_assoc, Nat.add_sub_cancel_left, dropBytes?] at hfront

/-- Nothing is cut off where the cut would fall inside a character. -/
theorem dropBytes?_of_inside {n : Nat} {front back : List Char} {c : Char}
    (hfront : byteCount front < n) (hback : n < byteCount front + c.utf8Size) :
    dropBytes? n (front ++ c :: back) = none := by
  obtain ⟨k, rfl⟩ := Nat.exists_eq_add_of_lt hfront
  rw [dropBytes?_front front _ (by omega), Nat.add_assoc, Nat.add_sub_cancel_left, dropBytes?,
    if_neg (by omega)]

/-- There are no other texts that nothing is cut off from. -/
theorem short_or_inside_of_dropBytes? {n : Nat} {text : List Char} (h : dropBytes? n text = none) :
    byteCount text < n ∨ ∃ front c back, text = front ++ c :: back ∧ byteCount front < n ∧
      n < byteCount front + c.utf8Size := by
  induction text generalizing n with
  | nil =>
      cases n with
      | zero => cases h
      | succ n => exact .inl (Nat.succ_pos n)
  | cons d text ih =>
      cases n with
      | zero => cases h
      | succ n =>
          simp only [dropBytes?] at h
          split at h
          · next hd =>
              rcases ih h with hshort | ⟨front, c, back, rfl, hfront, hback⟩
              · left
                rw [byteCount]
                omega
              · have hcount : byteCount (d :: front) = d.utf8Size + byteCount front := rfl
                exact .inr ⟨d :: front, c, back, rfl, by omega, by omega⟩
          · next hd =>
              -- the cut ends inside the first character
              have hcount : byteCount [] = 0 := rfl
              exact .inr ⟨[], d, text, rfl, by omega, by omega⟩

end Text

variable {s : Settings} {t : ClassTable} {c d : ObjectClass} {name rest : String}

theorem Cut.stripped_eq (h : Cut s.cPrefix.utf8ByteSize name rest) : s.stripped name = rest := by
  cases h with
  | off hname hfront =>
      rw [hname]
      exact stripped_append hfront
  | short hname =>
      rw [← Text.byteCount_toList] at hname
      exact stripped_of_dropBytes?_eq_none (Text.dropBytes?_of_short hname)
  | @inside front back c hname hfront hback =>
      apply stripped_of_dropBytes?_eq_none
      rw [← Text.byteCount_toList front] at hfront hback
      rw [hname, String.toList_append, String.toList_append, List.append_assoc]
      have hcut : Text.dropBytes? s.cPrefix.utf8ByteSize
          (front.toList ++ c :: back.toList) = none :=
        Text.dropBytes?_of_inside hfront hback
      simpa using hcut

/-- Every name is cut in one of the three ways. -/
theorem cut_stripped (s : Settings) (name : String) :
    Cut s.cPrefix.utf8ByteSize name (s.stripped name) := by
  cases hcut : Text.dropBytes? s.cPrefix.utf8ByteSize name.toList with
  | some chars =>
      obtain ⟨front, hname, hfront⟩ := Text.eq_append_of_dropBytes? hcut
      rw [stripped_of_dropBytes? hcut]
      have hsplit : name = String.ofList front ++ String.ofList chars := by
        rw [← String.ofList_append, ← hname, String.ofList_toList]
      exact .off hsplit (by rw [← Text.byteCount_eq, hfront])
  | none =>
      rw [stripped_of_dropBytes?_eq_none hcut]
      obtain hshort | ⟨front, c, back, hname, hfront, hback⟩ :=
        Text.short_or_inside_of_dropBytes? hcut
      · exact .short (by rwa [← Text.byteCount_toList])
      · have hsplit : name = String.ofList front ++ String.singleton c ++ String.ofList back := by
          apply String.toList_injective
          simp [hname]
        rw [Text.byteCount_eq] at hfront hback
        exact .inside hsplit hfront hback

/-- **What is left of a name** is what follows the bytes that the prefix has, or the whole name
    where these are not the bytes of whole characters. -/
theorem stripped_eq_iff : s.stripped name = rest ↔ Cut s.cPrefix.utf8ByteSize name rest := by
  constructor
  · rintro rfl
    exact cut_stripped s name
  · exact Cut.stripped_eq

/-- The fourth byte lies inside the last character, which has three. -/
example : Settings.standard.stripped "isl€" = "isl€" := by decide

/-- What is left of a name is a part at its end. -/
theorem exists_eq_append_stripped (s : Settings) (name : String) :
    ∃ front, name = front ++ s.stripped name := by
  have hcut := cut_stripped s name
  generalize s.stripped name = rest at hcut ⊢
  cases hcut with
  | @off front _ hname _ => exact ⟨front, hname⟩
  | short _ => exact ⟨"", by rw [String.empty_append]⟩
  | inside _ _ _ => exact ⟨"", by rw [String.empty_append]⟩

/-! ## Classes and object types -/

/-- Object types with the prefix are told apart in C++. -/
theorem Settings.Prefixed.handleType_eq_iff {a b : String} (ha : s.Prefixed a)
    (hb : s.Prefixed b) : s.handleType a = s.handleType b ↔ a = b := by
  constructor
  · intro h
    exact ha.eq_of_stripped_eq hb (qualified_inj.1 h)
  · rintro rfl
    rfl

/-- Other names may lose different bytes and be spelled alike. -/
example : Settings.standard.handleType "pet_set" = Settings.standard.handleType "isl_set" := by
  decide

theorem forwardDeclarations_eq (s : Settings) (t : ClassTable) :
    forwardDeclarations s t =
      "// forward declarations" :: t.toList.map fun c => "class " ++ s.className c ++ ";" := by
  rw [forwardDeclarations, List.map_eq_flatMap]
  rfl

theorem ClassTable.eq_of_key_eq (hc : c ∈ t.toList) (hd : d ∈ t.toList) (h : c.key = d.key) :
    c = d := by
  have hget : t.get? d.key = some c := ClassTable.get?_eq_some_iff.2 ⟨hc, h⟩
  rw [ClassTable.get?_eq_some_iff.2 ⟨hd, rfl⟩] at hget
  exact (Option.some.inj hget).symm

/-- The classes of a table stay apart under their C++ names if their keys have the prefix. -/
theorem namedApart_of_prefixed (ht : ∀ c ∈ t.toList, s.Prefixed c.key) : NamedApart s t := by
  have hdistinct : ∀ c ∈ t.toList, ∀ d ∈ t.toList, s.className c = s.className d → c = d := by
    intro c hc d hd hname
    have hkey : c.key = d.key := (ht c hc).eq_of_stripped_eq (ht d hd) hname
    exact ClassTable.eq_of_key_eq hc hd hkey
  refine ⟨forwardDeclarations_eq s t, fun c hc d hd => mt (hdistinct c hc d hd), ?_⟩
  rw [forwardDeclarations_eq, List.nodup_cons]
  constructor
  · intro hmem
    obtain ⟨c, _, hline⟩ := List.mem_map.1 hmem
    -- one line begins with a slash, the other one does not
    have hfirst := congrArg (·.toList.head?) hline
    simp at hfirst
  · rw [List.Nodup, List.pairwise_map]
    refine t.sorted.imp_of_mem fun {c d} hc hd hlt hline => ?_
    obtain rfl : c = d := hdistinct c hc d hd (by simpa using hline)
    exact String.lt_irrefl _ hlt

/-- **Cutting the prefix off undoes putting it in front.** It takes as many bytes off any name, or
    leaves the name whole, and names with the prefix stay apart without it: the classes of a table
    in the forward declarations as well as the object types. -/
theorem stripped_inverts_cName (s : Settings) :
    (∀ base, s.stripped (s.cName base) = base) ∧
    (∀ name rest, s.stripped name = rest ↔ Cut s.cPrefix.utf8ByteSize name rest) ∧
    (∀ name, ∃ front, name = front ++ s.stripped name) ∧
    (∀ t : ClassTable, (∀ c ∈ t.toList, s.Prefixed c.key) → NamedApart s t) ∧
    ∀ a b, s.Prefixed a → s.Prefixed b → (s.handleType a = s.handleType b ↔ a = b) :=
  ⟨stripped_cName s, fun _ _ => stripped_eq_iff, exists_eq_append_stripped s,
    fun _ => namedApart_of_prefixed, fun _ _ ha hb => ha.handleType_eq_iff hb⟩

theorem stripped_inverts_cName_scheduleNode :
    ∃ t, ClassTable.ofClasses [unionMap, scheduleNodeBand, scheduleNode] = .ok t ∧
      (∀ c ∈ t.toList, Settings.standard.Prefixed c.key) ∧ NamedApart .standard t ∧
      Settings.standard.Prefixed scheduleNode.key ∧
      Settings.standard.Prefixed scheduleNodeBand.key ∧
      Settings.standard.handleType scheduleNode.key ≠
        Settings.standard.handleType scheduleNodeBand.key := by
  obtain ⟨_, _, _, hclasses, htypes⟩ := stripped_inverts_cName .standard
  obtain ⟨t, ht⟩ : ∃ t, ClassTable.ofClasses [unionMap, scheduleNodeBand, scheduleNode] = .ok t :=
    ⟨_, rfl⟩
  have hunionMap : Settings.standard.Prefixed unionMap.key := ⟨"union_map", rfl⟩
  have hband : Settings.standard.Prefixed scheduleNodeBand.key := ⟨"schedule_node_band", rfl⟩
  have hnode : Settings.standard.Prefixed scheduleNode.key := ⟨"schedule_node", rfl⟩
  have hlisted : ∀ c ∈ [unionMap, scheduleNodeBand, scheduleNode],
      Settings.standard.Prefixed c.key := by
    simp [hunionMap, hband, hnode]
  have hprefixed : ∀ c ∈ t.toList, Settings.standard.Prefixed c.key :=
    fun c hc => hlisted c ((holds_of_ofClasses ht).perm.mem_iff.1 hc)
  refine ⟨t, ht, hprefixed, hclasses t hprefixed, hnode, hband, ?_⟩
  rw [ne_eq, htypes _ _ hnode hband]
  decide

end HandleWrap
