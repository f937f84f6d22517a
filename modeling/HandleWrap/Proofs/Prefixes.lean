import HandleWrap.Proofs.LeftmostPrefix
import HandleWrap.Proofs.Lines

set_option autoImplicit false

/-! # Names with a prefix and names with a scope

The C library puts its prefix in front of a name and the wrapper classes put their namespace there.
Cutting the prefix off undoes putting it in front (`stripped_cName`), and since the namespace is an
identifier, what stands behind its scope can be read off a qualified name (`scope_inj`). An
enumeration is spelled like a qualified name only if it is the prefixed one or has a scope already
(`enumType_eq_qualified`). -/

namespace HandleWrap

/-! ## Cutting and replacing -/

namespace Text

theorem byteCount_eq (text : List Char) : byteCount text = (String.ofList text).utf8ByteSize := by
  induction text with
  | nil => rfl
  | cons c text ih =>
      rw [byteCount, ih, String.ofList_cons, String.utf8ByteSize_append,
        String.utf8ByteSize_singleton]

theorem byteCount_toList (text : String) : byteCount text.toList = text.utf8ByteSize := by
  rw [byteCount_eq, String.ofList_toList]

theorem replaceLeftmost_append (pattern new rest : List Char) :
    replaceLeftmost pattern new (pattern ++ rest) = new ++ rest := by
  cases htext : pattern ++ rest with
  | nil =>
      obtain ⟨rfl, rfl⟩ := List.append_eq_nil_iff.1 htext
      simp [replaceLeftmost]
  | cons c text =>
      have hstrip := stripLeading?_append pattern rest
      rw [htext] at hstrip
      rw [replaceLeftmost, hstrip]

/-- Two texts are cut at the first occurrence of a character in the same place. -/
theorem append_cons_inj_of_not_mem {a b r t : List Char} {c : Char} (ha : c ∉ a) (hb : c ∉ b)
    (h : a ++ c :: r = b ++ c :: t) : a = b ∧ r = t := by
  induction a generalizing b with
  | nil =>
      cases b with
      | nil => exact ⟨rfl, List.cons.inj h |>.2⟩
      | cons y b => exact absurd (List.mem_cons.2 (.inl (List.cons.inj h).1)) hb
  | cons x a ih =>
      cases b with
      | nil => exact absurd (List.mem_cons.2 (.inl (List.cons.inj h).1.symm)) ha
      | cons y b =>
          obtain ⟨rfl, hrest⟩ := List.cons.inj h
          obtain ⟨rfl, rfl⟩ := ih (fun hc => ha (.tail _ hc)) (fun hc => hb (.tail _ hc)) hrest
          exact ⟨rfl, rfl⟩

end Text

variable {s : Settings} {a b name : String}

/-! ## Names of the C library -/

theorem stripped_of_dropBytes? {chars : List Char}
    (h : Text.dropBytes? s.cPrefix.utf8ByteSize name.toList = some chars) :
    s.stripped name = String.ofList chars := by
  rw [Settings.stripped, h]

theorem stripped_of_dropBytes?_eq_none
    (h : Text.dropBytes? s.cPrefix.utf8ByteSize name.toList = none) : s.stripped name = name := by
  rw [Settings.stripped, h]

/-- As many bytes are cut off as the prefix has, whatever they are. -/
theorem stripped_append {front rest : String}
    (h : front.utf8ByteSize = s.cPrefix.utf8ByteSize) : s.stripped (front ++ rest) = rest := by
  have hcut := Text.dropBytes?_append front.toList rest.toList
  rw [Text.byteCount_toList, h, ← String.toList_append] at hcut
  rw [stripped_of_dropBytes? hcut, String.ofList_toList]

/-- Cutting the prefix off undoes putting it in front. -/
@[simp] theorem stripped_cName (s : Settings) (name : String) :
    s.stripped (s.cName name) = name :=
  stripped_append rfl

/-- The name begins with the C prefix. -/
def Settings.Prefixed (s : Settings) (name : String) : Prop :=
  ∃ base, name = s.cName base

/-- Names with the prefix are told apart by what is left without it. -/
theorem Settings.Prefixed.eq_of_stripped_eq (ha : s.Prefixed a) (hb : s.Prefixed b)
    (h : s.stripped a = s.stripped b) : a = b := by
  obtain ⟨a, rfl⟩ := ha
  obtain ⟨b, rfl⟩ := hb
  rw [stripped_cName, stripped_cName] at h
  rw [h]

/-! ## Names with a scope -/

theorem qualified_inj : s.qualified a = s.qualified b ↔ a = b :=
  String.append_right_inj _

theorem toList_qualified (s : Settings) (name : String) :
    (s.qualified name).toList = s.targetNamespace.toList ++ ':' :: ':' :: name.toList := by
  rw [Settings.qualified, String.toList_append, String.toList_append, List.append_assoc]
  rfl

theorem colon_mem_qualified (s : Settings) (name : String) : ':' ∈ (s.qualified name).toList := by
  simp [toList_qualified]

theorem colon_not_mem_of_isIdentifier (h : Text.isIdentifier name = true) : ':' ∉ name.toList :=
  fun hmem => by
    have hpart := isWord_of_isIdentifier h ':' hmem
    revert hpart
    decide

/-- A qualified name has its namespace in front of the first colon. -/
theorem scope_inj {scope rest : List Char} (hs : Text.isIdentifier s.targetNamespace = true)
    (hscope : ':' ∉ scope) (h : scope ++ ':' :: ':' :: rest = (s.qualified name).toList) :
    scope = s.targetNamespace.toList ∧ rest = name.toList := by
  rw [toList_qualified] at h
  obtain ⟨rfl, hrest⟩ :=
    Text.append_cons_inj_of_not_mem hscope (colon_not_mem_of_isIdentifier hs) h
  exact ⟨rfl, (List.cons.inj hrest).2⟩

theorem handleType_cName (s : Settings) (name : String) :
    s.handleType (s.cName name) = s.qualified name := by
  rw [Settings.handleType, stripped_cName]

/-- A spelling without a colon is not that of an object type. -/
theorem ne_handleType (h : ':' ∉ a.toList) : a ≠ s.handleType name := by
  rintro rfl
  exact h (colon_mem_qualified s _)

/-! ## Enumerations -/

theorem enumType_cName (s : Settings) (name : String) :
    s.enumType (s.cName name) = s.qualified name := by
  have hreplaced := Text.replaceLeftmost_append s.cPrefix.toList
    (s.targetNamespace ++ "::").toList name.toList
  rw [← String.toList_append, ← String.toList_append] at hreplaced
  rw [Settings.enumType, Settings.cName, hreplaced, String.ofList_toList, Settings.qualified]

/-- An enumeration that is spelled like a qualified name is the name with the C prefix, or it has a
    scope already. -/
theorem enumType_eq_qualified (hs : Text.isIdentifier s.targetNamespace = true)
    (h : s.enumType a = s.qualified name) : a = s.cName name ∨ ':' ∈ a.toList := by
  have htext : Text.replaceLeftmost s.cPrefix.toList (s.targetNamespace ++ "::").toList a.toList =
      (s.qualified name).toList := by
    rw [← h, Settings.enumType, String.toList_ofList]
  obtain ⟨_, hsame⟩ | ⟨before, after, hleftmost, hreplaced⟩ :=
    (Text.replaceLeftmost_spec s.cPrefix.toList (s.targetNamespace ++ "::").toList a.toList).symm
  · right
    rw [← hsame, htext]
    exact colon_mem_qualified s name
  have ha := hleftmost.splits
  by_cases hcolon : ':' ∈ before
  · exact .inr (by simp [ha, hcolon])
  · left
    -- without a colon in front of it the scope that was put in is that of the qualified name
    have hscope : ':' ∉ before ++ s.targetNamespace.toList := by
      simp [hcolon, colon_not_mem_of_isIdentifier hs]
    have hsplit : (before ++ s.targetNamespace.toList) ++ ':' :: ':' :: after =
        (s.qualified name).toList := by
      rw [← htext, hreplaced, String.toList_append]
      simp
    obtain ⟨hbefore, hafter⟩ := scope_inj hs hscope hsplit
    obtain rfl : before = [] := by simpa using hbefore
    apply String.toList_injective
    rw [ha, hafter, Settings.cName, String.toList_append, List.nil_append]

end HandleWrap
