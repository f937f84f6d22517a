import HandleWrap.Json.Descriptors
import HandleWrap.Proofs.Success

set_option autoImplicit false

/-! # Reading back what was written

What the decoders share when they read a value that an encoder has built. Such a value has no
faults, so nothing but its nesting can be in the way (`Json.Whole`): a text has room for so many
open brackets, and a value that was built has no limit (`Origin.HasRoom`). Under a bracket there is
room for everything that stands there (`HasRoom.enter_list`, `HasRoom.enter_record`). Lists,
options, maps and records give back what was written into them if their parts do (`Restored`); for a
record that means that its members turn the empty draft into the full one, one by one
(`Collects`). -/

namespace HandleWrap

open Json

/-! ## Nesting -/

namespace Json

mutual

/-- How many brackets are open at a time in the value, at most. -/
def nesting : Json → Nat
  | .array items _ => nestingOfItems items + 1
  | .object members _ => nestingOfMembers members + 1
  | _ => 0

/-- The nesting of the deepest element. -/
def nestingOfItems : List Json → Nat
  | [] => 0
  | item :: rest => max item.nesting (nestingOfItems rest)

/-- The nesting of the deepest member. -/
def nestingOfMembers : List (Key × Json) → Nat
  | [] => 0
  | (_, value) :: rest => max value.nesting (nestingOfMembers rest)

end

theorem nestingOfItems_le_iff {items : List Json} {n : Nat} :
    nestingOfItems items ≤ n ↔ ∀ item ∈ items, item.nesting ≤ n := by
  induction items with
  | nil => simp [nestingOfItems]
  | cons item rest ih => rw [nestingOfItems, Nat.max_le, ih, List.forall_mem_cons]

theorem nestingOfMembers_le_iff {members : List (Key × Json)} {n : Nat} :
    nestingOfMembers members ≤ n ↔ ∀ m ∈ members, m.2.nesting ≤ n := by
  induction members with
  | nil => simp [nestingOfMembers]
  | cons m rest ih =>
      obtain ⟨key, value⟩ := m
      rw [nestingOfMembers, Nat.max_le, ih, List.forall_mem_cons]

theorem nesting_list_le_iff {items : List Json} {n : Nat} :
    (Json.list items).nesting ≤ n ↔
      ∃ inner, n = inner + 1 ∧ ∀ item ∈ items, item.nesting ≤ inner := by
  rw [Json.list, nesting]
  cases n with
  | zero => simp
  | succ n => simp [nestingOfItems_le_iff]

theorem nesting_record_le_iff {members : List (String × Json)} {n : Nat} :
    (Json.record members).nesting ≤ n ↔
      ∃ inner, n = inner + 1 ∧ ∀ m ∈ members, m.2.nesting ≤ inner := by
  rw [Json.record, nesting]
  cases n with
  | zero => simp
  | succ n =>
      rw [Nat.add_le_add_iff_right, nestingOfMembers_le_iff, List.forall_mem_map]
      simp

/-! ## Values without faults -/

theorem readItems?_eq_none_iff {room : Nat} {items : List Json} :
    readItems? room items = none ↔ ∀ item ∈ items, item.readFault? room = none := by
  induction items with
  | nil => simp [readItems?]
  | cons item rest ih => rw [readItems?, Option.or_eq_none_iff, ih, List.forall_mem_cons]

theorem readFault?_list_eq_none_iff {room : Nat} {items : List Json} :
    (Json.list items).readFault? room = none ↔
      ∃ inner, room = inner + 1 ∧ ∀ item ∈ items, item.readFault? inner = none := by
  rw [Json.list]
  cases room with
  | zero => simp [readFault?]
  | succ room => simp [readFault?, readItems?_eq_none_iff]

theorem record_eq (members : List (String × Json)) :
    Json.record members = .object (members.map fun m => (.ok m.1, m.2)) none := rfl

theorem readFault?_record_eq_none_iff {room : Nat} {members : List (String × Json)} :
    (Json.record members).readFault? room = none ↔
      ∃ inner, room = inner + 1 ∧ ∀ m ∈ members, m.2.readFault? inner = none := by
  have hmembers : ∀ inner,
      readMembers? inner (members.map fun m => (.ok m.1, m.2)) = none ↔
        ∀ m ∈ members, m.2.readFault? inner = none := by
    intro inner
    induction members with
    | nil => simp [readMembers?]
    | cons m rest ih =>
        rw [List.map_cons, readMembers?, Option.or_eq_none_iff, ih, List.forall_mem_cons]
  rw [record_eq]
  cases room with
  | zero => simp [readFault?]
  | succ room => simp [readFault?, hmembers]

/-- A value without faults: nothing but its nesting can keep it from being read. -/
def Whole (j : Json) : Prop :=
  ∀ room, j.readFault? room = none ↔ j.nesting ≤ room

theorem whole_string (value : String) : (Json.string value).Whole := fun room => by
  simp [readFault?, nesting]

theorem whole_list {items : List Json} (h : ∀ item ∈ items, item.Whole) :
    (Json.list items).Whole := fun room => by
  rw [readFault?_list_eq_none_iff, nesting_list_le_iff]
  exact exists_congr fun inner => and_congr_right fun _ => forall₂_congr fun item hitem =>
    h item hitem inner

theorem whole_record {members : List (String × Json)} (h : ∀ m ∈ members, m.2.Whole) :
    (Json.record members).Whole := fun room => by
  rw [readFault?_record_eq_none_iff, nesting_record_le_iff]
  exact exists_congr fun inner => and_congr_right fun _ => forall₂_congr fun m hm => h m hm inner

end Json

namespace Origin

/-- A value of that origin may be nested as deep as `j` is: a text has room for so many brackets. -/
def HasRoom : Origin → Json → Prop
  | .text room, j => j.nesting ≤ room
  | _, _ => True

variable {origin : Origin}

theorem HasRoom.enter_list {items : List Json} (h : origin.HasRoom (.list items)) :
    ∃ inner, origin.enter = .ok inner ∧ ∀ item ∈ items, inner.HasRoom item := by
  cases origin with
  | text room =>
      obtain ⟨inner, rfl, hitems⟩ := nesting_list_le_iff.1 h
      exact ⟨.text inner, rfl, hitems⟩
  | value => exact ⟨.value, rfl, fun _ _ => trivial⟩
  | kept => exact ⟨.kept, rfl, fun _ _ => trivial⟩

theorem HasRoom.enter_record {members : List (String × Json)}
    (h : origin.HasRoom (.record members)) :
    ∃ inner, origin.enter = .ok inner ∧ ∀ m ∈ members, inner.HasRoom m.2 := by
  cases origin with
  | text room =>
      obtain ⟨inner, rfl, hmembers⟩ := nesting_record_le_iff.1 h
      exact ⟨.text inner, rfl, hmembers⟩
  | value => exact ⟨.value, rfl, fun _ _ => trivial⟩
  | kept => exact ⟨.kept, rfl, fun _ _ => trivial⟩

end Origin

/-- Decoding gives back what was encoded, wherever there is room for it. -/
def Restored {α : Type} (encode : α → Json) (decode : Origin → Json → Decoded α) (a : α) : Prop :=
  ∀ origin : Origin, origin.HasRoom (encode a) → decode origin (encode a) = .ok a

/-! ## Lists, options and maps -/

section

variable {α : Type} {encode : α → Json} {decode : Origin → Json → Decoded α} {origin : Origin}

theorem readList_list {items : List α} (h : ∀ a ∈ items, Restored encode decode a)
    (hroom : origin.HasRoom (.list (items.map encode))) :
    (Json.list (items.map encode)).readList origin decode = .ok items := by
  obtain ⟨inner, henter, hitems⟩ := hroom.enter_list
  have hvalues : (items.map encode).mapM (decode inner) = .ok items := by
    rw [mapM_eq_ok_iff, List.forall₂_map_left_iff, List.forall₂_same]
    exact fun a ha => h a ha inner (hitems _ (List.mem_map_of_mem ha))
  exact bind_eq_ok_iff.2 ⟨inner, henter, bind_eq_ok_iff.2 ⟨items, hvalues, rfl⟩⟩

theorem readOption_ofOption {option : Option α} (hvalue : ∀ a, encode a ≠ .null)
    (h : ∀ a ∈ option, Restored encode decode a)
    (hroom : origin.HasRoom (.ofOption encode option)) :
    (Json.ofOption encode option).readOption (decode origin) = .ok option := by
  cases option with
  | none => rfl
  | some a =>
      have ha : decode origin (encode a) = .ok a := h a rfl origin hroom
      rw [Json.ofOption, readOption, ha]
      · rfl
      · exact hvalue a

theorem readMap_record {m : NameMap α} (h : ∀ e ∈ m.entries, Restored encode decode e.2)
    (hroom : origin.HasRoom (.record (m.entries.map fun e => (e.1, encode e.2)))) :
    (Json.record (m.entries.map fun e => (e.1, encode e.2))).readMap origin decode = .ok m := by
  obtain ⟨inner, henter, hmembers⟩ := hroom.enter_record
  rw [List.forall_mem_map] at hmembers
  have hentries : (((m.entries.map fun e => (e.1, encode e.2)).map fun member =>
      ((.ok member.1, member.2) : Key × Json)).mapM fun member => do
        return (← readKey member.1, ← decode inner member.2)) = .ok m.entries := by
    rw [List.map_map, mapM_eq_ok_iff, List.forall₂_map_left_iff, List.forall₂_same]
    intro e he
    exact bind_eq_ok_iff.2 ⟨e.1, rfl, bind_eq_ok_iff.2 ⟨e.2, h e he inner (hmembers e he), rfl⟩⟩
  refine bind_eq_ok_iff.2 ⟨inner, henter, bind_eq_ok_iff.2 ⟨m.entries, hentries, ?_⟩⟩
  exact congrArg Except.ok m.ofList_entries

end

/-! ## Records -/

section

variable {δ : Type} {form : RecordForm δ} {origin : Origin} {draft next final : δ}
  {members front back : List (String × Json)}

/-- `Collects form origin draft members final`: reading the members one after the other turns the
    draft into the final one. -/
inductive Collects (form : RecordForm δ) (origin : Origin) : δ → List (String × Json) → δ → Prop
  | nil {draft : δ} : Collects form origin draft [] draft
  | cons {draft next final : δ} {name : String} {value : Json} {rest : List (String × Json)}
      (hread : form.read origin name value draft = .ok next)
      (hrest : Collects form origin next rest final) :
      Collects form origin draft ((name, value) :: rest) final

theorem Collects.append (hfront : Collects form origin draft front next)
    (hback : Collects form origin next back final) :
    Collects form origin draft (front ++ back) final := by
  induction hfront with
  | nil => exact hback
  | cons hread _ ih => exact .cons hread (ih hback)

/-- Members with different names are all taken in. -/
theorem readFields_of_collects {seen : List String} (h : Collects form origin draft members final)
    (hfields : ∀ m ∈ members, m.1 ∈ form.fields) (hnames : (members.map (·.1)).Nodup)
    (hnew : ∀ m ∈ members, m.1 ∉ seen) :
    readFields form origin seen draft (members.map fun (name, value) => (.ok name, value)) =
      .ok final := by
  induction h generalizing seen with
  | nil => rfl
  | @cons draft next final name value rest hread _ ih =>
      rw [List.forall_mem_cons] at hfields hnew
      rw [List.map_cons, List.nodup_cons] at hnames
      have hrest : ∀ m ∈ rest, m.1 ∉ name :: seen := fun m hm hmem => by
        rcases List.mem_cons.1 hmem with heq | hmem
        · exact hnames.1 (List.mem_map.2 ⟨m, hm, heq⟩)
        · exact hnew.2 m hm hmem
      have hih := ih hfields.2 hnames.2 hrest
      rw [List.map_cons, readFields]
      refine bind_eq_ok_iff.2 ⟨name, rfl, ?_⟩
      simp only [List.contains_iff_mem, hfields.1, hnew.1, if_true, if_false]
      exact bind_eq_ok_iff.2 ⟨next, hread, hih⟩

/-- A record that gives fields in order of declaration is read field by field. -/
theorem readRecord_record (hroom : origin.HasRoom (.record members))
    (hdistinct : form.fields.Nodup) (hnames : (members.map (·.1)).Sublist form.fields)
    (h : ∀ inner : Origin, (∀ m ∈ members, inner.HasRoom m.2) →
      Collects form inner draft members final) :
    readRecord form origin draft (.record members) = .ok (final, .missingField) := by
  obtain ⟨inner, henter, hmembers⟩ := hroom.enter_record
  have hfields : ∀ m ∈ members, m.1 ∈ form.fields := fun m hm =>
    hnames.subset (List.mem_map_of_mem hm)
  have hread : readFields form inner [] draft
      (members.map fun (name, value) => (.ok name, value)) = .ok final :=
    readFields_of_collects (h inner hmembers) hfields (hnames.nodup hdistinct)
      fun _ _ => List.not_mem_nil
  exact bind_eq_ok_iff.2 ⟨inner, henter, bind_eq_ok_iff.2 ⟨final, hread, rfl⟩⟩

end

end HandleWrap
