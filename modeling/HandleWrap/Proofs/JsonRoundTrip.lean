import HandleWrap.Proofs.JsonRecords
import HandleWrap.Proofs.ListingOrder
import HandleWrap.Proofs.Translation

set_option autoImplicit false

/-! # Descriptors and tables come back

Decoding inverts encoding on types, parameters, functions, classes and tables (`decode_encode`). A
type is read twice: its members are looked through for the kind and kept, and then the kept ones are
read again, where nesting has no limit any more; so the induction on types needs its hypothesis for
kept values only. A class leaves out one field if it has no value, and writes `null` for the other
three. A table is written as the list of its classes and put together from that list again. -/

namespace HandleWrap

open Json

/-! ## Types -/

theorem readKind_string (origin : Origin) (kind : String) :
    readKind origin (.string kind) = checkVariant typeKinds kind := by
  cases origin <;> rfl

theorem Ownership.restored (ownership : Ownership) :
    Restored Ownership.toJson Ownership.ofJson ownership := fun _ _ => by
  cases ownership <;> rfl

theorem keep_of_whole {origin : Origin} {j : Json} (hwhole : j.Whole) (hroom : origin.HasRoom j) :
    keep origin j = .ok () := by
  cases origin with
  | text room => exact congrArg endAt ((hwhole room).2 hroom)
  | value => rfl
  | kept => rfl

theorem argsToJson_eq_map (args : List CallbackArg) :
    argsToJson args = args.map fun arg =>
      .record [("type", arg.type.toJson), ("ownership", arg.ownership.toJson)] := by
  induction args with
  | nil => rfl
  | cons arg rest ih => cases arg; rw [argsToJson, ih, List.map_cons]

theorem whole_args {args : List CallbackArg} (h : ∀ arg ∈ args, arg.type.toJson.Whole) :
    (Json.list (argsToJson args)).Whole := by
  refine whole_list ?_
  rw [argsToJson_eq_map, List.forall_mem_map]
  intro arg harg
  exact whole_record (by simp [h arg harg, Ownership.toJson, whole_string])

theorem CType.whole_toJson (type : CType) : type.toJson.Whole := by
  induction type using CType.inductionOn with
  | plain type h =>
      cases type with
      | callback signature => cases h
      | _ => exact whole_record (by simp [whole_string])
  | callback signature hresult hargs =>
      obtain ⟨result, args⟩ := signature
      exact whole_record (by simp [whole_string, hresult, whole_args hargs])

theorem kindOfMembers_fields {origin : Origin} {kind : Option String}
    {members : List (String × Json)} (hnames : ∀ m ∈ members, m.1 ≠ "kind")
    (hkeep : ∀ m ∈ members, keep origin m.2 = .ok ()) :
    kindOfMembers origin kind (members.map fun (name, value) => (.ok name, value)) = .ok kind := by
  induction members with
  | nil => rfl
  | cons m rest ih =>
      rw [List.forall_mem_cons] at hnames hkeep
      rw [List.map_cons, kindOfMembers]
      refine bind_eq_ok_iff.2 ⟨m.1, rfl, ?_⟩
      rw [if_neg hnames.1]
      exact bind_eq_ok_iff.2 ⟨(), hkeep.1, ih hnames.2 hkeep.2⟩

/-- A type that says its kind first is read by that kind. -/
theorem CType.ofJson_kind {origin : Origin} {kind : String} {fields : List (String × Json)}
    (hkind : typeKinds.contains kind = true) (hnames : ∀ m ∈ fields, m.1 ≠ "kind")
    (hwhole : ∀ m ∈ fields, m.2.Whole)
    (hroom : origin.HasRoom (.record (("kind", .string kind) :: fields))) :
    CType.ofJson origin (.record (("kind", .string kind) :: fields)) =
      if kind = "callback" then do
        let draft ← callbackMembers .kept {}
          ((("kind", .string kind) :: fields).map fun (name, value) => (.ok name, value))
        return .callback (← draft.finish .missingField)
      else plainType kind (.record (("kind", .string kind) :: fields)) := by
  obtain ⟨inner, henter, hmembers⟩ := hroom.enter_record
  rw [List.forall_mem_cons] at hmembers
  have hkeep : ∀ m ∈ fields, keep inner m.2 = .ok () := fun m hm =>
    keep_of_whole (hwhole m hm) (hmembers.2 m hm)
  have hread : readKind inner (.string kind) = .ok kind := by
    rw [readKind_string, checkVariant, if_pos hkind]
  have hkindOf : kindOfMembers inner none
      ((("kind", .string kind) :: fields).map fun (name, value) => (.ok name, value)) =
        .ok (some kind) := by
    rw [List.map_cons, kindOfMembers]
    refine bind_eq_ok_iff.2 ⟨"kind", rfl, ?_⟩
    rw [if_pos rfl]
    exact bind_eq_ok_iff.2 ⟨kind, hread, kindOfMembers_fields hnames hkeep⟩
  rw [Json.record, CType.ofJson, henter]
  change (kindOfMembers _ _ _ >>= _) = _
  rw [hkindOf]
  rfl

theorem argOfJson_kept {arg : CallbackArg}
    (htype : CType.ofJson .kept arg.type.toJson = .ok arg.type) :
    CallbackArg.ofJson .kept
      (.record [("type", arg.type.toJson), ("ownership", arg.ownership.toJson)]) = .ok arg := by
  obtain ⟨type, ownership⟩ := arg
  have hownership : Ownership.ofJson .kept ownership.toJson = .ok ownership :=
    ownership.restored .kept trivial
  have hread : argMembers .kept {} [(.ok "type", type.toJson),
      (.ok "ownership", ownership.toJson)] = .ok ⟨some type, some ownership⟩ := by
    simp [argMembers, readKey, htype, hownership, Except.mapError, bind, Except.bind]
  exact bind_eq_ok_iff.2 ⟨_, hread, rfl⟩

theorem argsOfJson_kept {args : List CallbackArg}
    (h : ∀ arg ∈ args, CType.ofJson .kept arg.type.toJson = .ok arg.type) :
    argsOfJson .kept (argsToJson args) = .ok args := by
  rw [argsToJson_eq_map]
  induction args with
  | nil => rfl
  | cons arg rest ih =>
      obtain ⟨harg, hrest⟩ := List.forall_mem_cons.1 h
      have hih := ih hrest
      exact bind_eq_ok_iff.2 ⟨arg, argOfJson_kept harg, bind_eq_ok_iff.2 ⟨rest, hih, rfl⟩⟩

/-- **Types are restored,** however deep callbacks are nested in them. -/
theorem CType.restored (type : CType) : Restored CType.toJson CType.ofJson type := by
  induction type using CType.inductionOn with
  | plain type h =>
      cases type with
      | callback signature => cases h
      | _ =>
          intro origin hroom
          exact (CType.ofJson_kind rfl (by simp) (by simp [whole_string]) hroom).trans rfl
  | callback signature hresult hargs =>
      obtain ⟨result, args⟩ := signature
      have hresult : CType.ofJson .kept result.toJson = .ok result := hresult .kept trivial
      have hargs : argListOfJson .kept (.list (argsToJson args)) = .ok args :=
        bind_eq_ok_iff.2 ⟨args, argsOfJson_kept fun arg harg => hargs arg harg .kept trivial, rfl⟩
      have hread : callbackMembers .kept {} [(.ok "kind", .string "callback"),
          (.ok "return_type", result.toJson), (.ok "args", .list (argsToJson args))] =
            .ok ⟨some result, some args⟩ := by
        simp [callbackMembers, readKey, hresult, hargs, Except.mapError, bind, Except.bind, skip,
          skipFault?, endAt]
      have hwhole : (Json.list (argsToJson args)).Whole :=
        whole_args fun arg _ => arg.type.whole_toJson
      intro origin hroom
      refine (CType.ofJson_kind rfl (by simp)
        (by simp [result.whole_toJson, hwhole]) hroom).trans ?_
      rw [if_pos rfl]
      exact bind_eq_ok_iff.2 ⟨_, hread, rfl⟩

/-! ## Functions, classes and tables -/

theorem Param.restored (p : Param) : Restored Param.toJson Param.ofJson p := by
  intro origin hroom
  have hread : readRecord paramForm origin {} p.toJson =
      .ok (⟨some p.name, some p.type, some p.ownership⟩, .missingField) := by
    refine readRecord_record hroom (by decide) (List.Sublist.refl _) fun inner hinner => ?_
    simp only [List.forall_mem_cons] at hinner
    obtain ⟨_, htype, hownership, _⟩ := hinner
    exact .cons rfl
      (.cons (bind_eq_ok_iff.2 ⟨p.type, p.type.restored inner htype, rfl⟩)
      (.cons (bind_eq_ok_iff.2 ⟨p.ownership, p.ownership.restored inner hownership, rfl⟩) .nil))
  exact bind_eq_ok_iff.2 ⟨_, hread, rfl⟩

theorem CFunction.restored (f : CFunction) : Restored CFunction.toJson CFunction.ofJson f := by
  intro origin hroom
  have hread : readRecord functionForm origin {} f.toJson =
      .ok (⟨some f.name, some f.returnType, some f.givesResult, some f.params⟩, .missingField) := by
    refine readRecord_record hroom (by decide) (List.Sublist.refl _) fun inner hinner => ?_
    simp only [List.forall_mem_cons] at hinner
    obtain ⟨_, htype, _, hparams, _⟩ := hinner
    have hlist := readList_list (fun p _ => Param.restored p) hparams
    exact .cons rfl
      (.cons (bind_eq_ok_iff.2 ⟨f.returnType, f.returnType.restored inner htype, rfl⟩)
      (.cons rfl (.cons (bind_eq_ok_iff.2 ⟨f.params, hlist, rfl⟩) .nil)))
  exact bind_eq_ok_iff.2 ⟨_, hread, rfl⟩

theorem CFunction.toJson_ne_null (f : CFunction) : f.toJson ≠ .null := by
  intro h
  cases h

theorem Json.restored_string (value : String) :
    Restored Json.string (fun _ => readString) value := fun _ _ => rfl

/-- The name of a class, and that of the view if it is one. -/
theorem collects_names (origin : Origin) (c : ObjectClass) :
    Collects classForm origin {}
      ([("name", .string c.name)] ++
        (match c.subclassName with
          | some sub => [("subclass_name", .string sub)]
          | none => []))
      ⟨some c.name, { name := "", subclassName := c.subclassName }⟩ := by
  cases c.subclassName with
  | none => exact .cons rfl .nil
  | some sub => exact .cons rfl (.cons rfl .nil)

theorem ObjectClass.restored (c : ObjectClass) :
    Restored ObjectClass.toJson ObjectClass.ofJson c := by
  intro origin hroom
  have hread : readRecord classForm origin {} c.toJson =
      .ok (⟨some c.name, { c with name := "" }⟩, .missingField) := by
    refine readRecord_record hroom (by decide) ?_ fun inner hinner => ?_
    · cases c.subclassName with
      | none =>
          have hnames : ["name", "superclasses", "type_tag_accessor", "equality", "stringify",
            "constructors", "methods"].Sublist classForm.fields := by decide
          exact hnames
      | some sub => exact List.Sublist.refl _
    · refine (collects_names inner c).append ?_
      have hrest := (List.forall_mem_append.1 hinner).2
      simp only [List.forall_mem_cons] at hrest
      obtain ⟨hsuperclasses, haccessor, hequality, hstringify, hconstructors, hmethods, _⟩ := hrest
      have hnames := readList_list (fun name _ => restored_string name) hsuperclasses
      have hoption : ∀ {option : Option CFunction},
          inner.HasRoom (.ofOption CFunction.toJson option) →
            (Json.ofOption CFunction.toJson option).readOption (CFunction.ofJson inner) =
              .ok option :=
        readOption_ofOption CFunction.toJson_ne_null fun f _ => f.restored
      have hlist : ∀ functions : List CFunction,
          Restored (fun functions => .list (functions.map CFunction.toJson))
            (fun origin => readList origin CFunction.ofJson) functions := fun functions _ =>
        readList_list fun f _ => f.restored
      have hgroups := readMap_record (fun group _ => hlist group.2) hmethods
      exact .cons (bind_eq_ok_iff.2 ⟨c.superclasses, hnames, rfl⟩)
        (.cons (bind_eq_ok_iff.2 ⟨c.typeTagAccessor, hoption haccessor, rfl⟩)
        (.cons (bind_eq_ok_iff.2 ⟨c.equality, hoption hequality, rfl⟩)
        (.cons (bind_eq_ok_iff.2 ⟨c.stringify, hoption hstringify, rfl⟩)
        (.cons (bind_eq_ok_iff.2 ⟨c.constructors, hlist _ inner hconstructors, rfl⟩)
        (.cons (bind_eq_ok_iff.2 ⟨c.methods, hgroups, rfl⟩) .nil)))))
  exact bind_eq_ok_iff.2 ⟨_, hread, rfl⟩

/-- The classes of a table make the table again. -/
theorem ClassTable.ofClasses_toList {list : List ObjectClass} {t : ClassTable}
    (h : ofClasses list = .ok t) : ofClasses t.toList = .ok t := by
  have hperm : list.Perm t.toList := (holds_of_ofClasses h).perm.symm
  rcases ofClasses_perm hperm with ⟨t₁, t₂, h₁, h₂, rfl, _⟩ | ⟨e, _, he, _⟩
  · obtain rfl : t = t₁ := Except.ok.inj (h.symm.trans h₁)
    exact h₂
  · cases h.symm.trans he

theorem ClassTable.restored {t : ClassTable} {list : List ObjectClass}
    (h : ofClasses list = .ok t) :
    Restored ClassTable.toJson ClassTable.ofJson t := by
  intro origin hroom
  have hread : readRecord tableForm origin [] t.toJson = .ok (t.toList, .missingField) := by
    refine readRecord_record hroom (by decide) (List.Sublist.refl _) fun inner hinner => ?_
    have hlist : inner.HasRoom (.list (t.toList.map ObjectClass.toJson)) :=
      (List.forall_mem_cons.1 hinner).1
    exact .cons (readList_list (fun c _ => c.restored) hlist) .nil
  have htable : (ofClasses t.toList).mapError JsonError.table = .ok t := by
    rw [ofClasses_toList h]
    rfl
  exact bind_eq_ok_iff.2 ⟨_, hread, htable⟩

/-- A text that holds the JSON form of a table, nested no deeper than texts may be, is read as the
    table. -/
theorem ClassTable.ofText_eq_ok {t : ClassTable} {list : List ObjectClass}
    (h : ofClasses list = .ok t) {text : String} (hscan : Json.scan text = (t.toJson, false))
    (hnesting : t.toJson.nesting ≤ 127) : ofText text = .ok t := by
  have hread : ofJson .wholeText t.toJson = .ok t := restored h .wholeText hnesting
  rw [ofText, hscan]
  exact bind_eq_ok_iff.2 ⟨t, hread, rfl⟩

/-- **Decoding inverts encoding** on every type, function and class, and on every table that was
    made of classes. -/
theorem decode_encode :
    (∀ type : CType, Restored CType.toJson CType.ofJson type) ∧
    (∀ p : Param, Restored Param.toJson Param.ofJson p) ∧
    (∀ f : CFunction, Restored CFunction.toJson CFunction.ofJson f) ∧
    (∀ c : ObjectClass, Restored ObjectClass.toJson ObjectClass.ofJson c) ∧
    ∀ list t, ClassTable.ofClasses list = .ok t →
      Restored ClassTable.toJson ClassTable.ofJson t ∧
      ∀ text, Json.scan text = (t.toJson, false) → t.toJson.nesting ≤ 127 →
        ClassTable.ofText text = .ok t :=
  ⟨CType.restored, Param.restored, CFunction.restored, ObjectClass.restored, fun _ _ h =>
    ⟨ClassTable.restored h, fun _ hscan hnesting => ClassTable.ofText_eq_ok h hscan hnesting⟩⟩

/-- A class without members. -/
def idClass : ObjectClass :=
  .named "isl_id"

/-- The JSON form of the table with that class alone. -/
def idText : String :=
  r#"{"classes": [{"name": "isl_id", "superclasses": [], "# ++
  "\"type_tag_accessor\": null, \"equality\": null, \"stringify\": null, " ++
  r#""constructors": [], "methods": {}}]}"#

theorem decode_encode_unionMap :
    (∃ t, ClassTable.ofClasses [scheduleNodeBand, unionMap, scheduleNode] = .ok t ∧
      t.toJson.nesting = 12 ∧ ClassTable.ofJson .wholeText t.toJson = .ok t) ∧
    ∃ t, ClassTable.ofClasses [idClass] = .ok t ∧ Json.scan idText = (t.toJson, false) ∧
      ClassTable.ofText idText = .ok t := by
  obtain ⟨_, _, _, _, htable⟩ := decode_encode
  constructor
  · obtain ⟨t, ht, hnesting⟩ :
        ∃ t, ClassTable.ofClasses [scheduleNodeBand, unionMap, scheduleNode] = .ok t ∧
          t.toJson.nesting = 12 := ⟨_, rfl, rfl⟩
    have hroom : Origin.wholeText.HasRoom t.toJson := by
      change t.toJson.nesting ≤ 127
      omega
    exact ⟨t, ht, hnesting, (htable _ t ht).1 .wholeText hroom⟩
  · obtain ⟨t, ht, hform⟩ : ∃ t, ClassTable.ofClasses [idClass] = .ok t ∧
        t.toJson = .record [("classes", .list [idClass.toJson])] := ⟨_, rfl, rfl⟩
    have hnesting : t.toJson.nesting ≤ 127 := by
      rw [hform]
      decide
    have hscan : Json.scan idText = (t.toJson, false) := by
      rw [hform]
      cbv
    exact ⟨t, ht, hscan, (htable _ t ht).2 idText hscan hnesting⟩

end HandleWrap
