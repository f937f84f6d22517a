import HandleWrap.Text.Code
import HandleWrap.Text.Identifier

set_option autoImplicit false

/-! # Lines of a text

A rendered text has the lines that it was rendered from, provided that none of them holds a line end
of its own (`linesOf_render`). What a line is put together from are literals, names and spellings;
`OneLine` and `Begins` follow a line through its pieces, and words and spellings have both. -/

namespace HandleWrap

variable {a b : String}

/-! ## Lists of texts -/

/-- What holds of the separator and of all items holds of the list, if texts that are put after each
    other keep it. -/
theorem intercalate_of_append {P : String → Prop} (hempty : P "")
    (happend : ∀ {a b : String}, P a → P b → P (a ++ b)) {separator : String} {items : List String}
    (hseparator : P separator) (hitems : ∀ item ∈ items, P item) :
    P (separator.intercalate items) := by
  induction items with
  | nil => exact hempty
  | cons first rest ih =>
      obtain ⟨hfirst, hrest⟩ := List.forall_mem_cons.1 hitems
      cases rest with
      | nil => rwa [String.intercalate_singleton]
      | cons second rest =>
          rw [String.intercalate_cons_cons]
          exact happend (happend hfirst hseparator) (ih hrest)

/-! ## Texts without line ends -/

/-- The text holds no line end. -/
def OneLine (text : String) : Prop :=
  '\n' ∉ text.toList

@[simp] theorem oneLine_append_iff : OneLine (a ++ b) ↔ OneLine a ∧ OneLine b := by
  simp [OneLine, not_or]

/-- The characters of a literal are looked at one by one. -/
@[simp] theorem oneLine_literal {chars : List Char} (h : '\n' ∉ chars) :
    OneLine (no_index (String.ofList chars)) := by
  rwa [OneLine, String.toList_ofList]

/-! ## The lines of a text -/

/-- The lines of a text, and what stands behind the last line end. -/
def linesOf (text : String) : List (List Char) :=
  text.toList.splitOn '\n'

theorem toList_render (lines : Code) :
    lines.render.toList = ['\n'].intercalate (lines.map String.toList ++ [[]]) := by
  induction lines with
  | nil => rfl
  | cons line rest ih =>
      have hne : rest.map String.toList ++ [[]] ≠ [] := by simp
      rw [Code.render, String.toList_append, String.toList_append, ih, List.map_cons,
        List.cons_append, List.intercalate_cons_of_ne_nil hne]
      rfl

/-- Rendering and splitting are inverse, up to the empty text behind the last line end. -/
theorem linesOf_render {lines : Code} (h : ∀ line ∈ lines, OneLine line) :
    linesOf lines.render = lines.map String.toList ++ [[]] := by
  rw [linesOf, toList_render]
  refine List.splitOn_intercalate _ (fun chars hchars => ?_) (by simp)
  rcases List.mem_append.1 hchars with hline | hempty
  · obtain ⟨line, hmem, rfl⟩ := List.mem_map.1 hline
    exact h line hmem
  · rw [List.mem_singleton.1 hempty]
    exact List.not_mem_nil

/-! ## Words and spellings -/

/-- The text begins with something else than a blank. -/
def Begins (text : String) : Prop :=
  ∃ first rest, text.toList = first :: rest ∧ first ≠ ' '

theorem begins_literal {first : Char} {rest : List Char} (h : first ≠ ' ') :
    Begins (no_index (String.ofList (first :: rest))) :=
  ⟨first, rest, String.toList_ofList, h⟩

theorem Begins.append (h : Begins a) (b : String) : Begins (a ++ b) := by
  obtain ⟨first, rest, htext, hfirst⟩ := h
  exact ⟨first, rest ++ b.toList, by rw [String.toList_append, htext, List.cons_append], hfirst⟩

/-- The text consists of characters that identifiers go on with. It may be empty. -/
def IsWord (text : String) : Prop :=
  ∀ c ∈ text.toList, Text.isIdentifierPart c = true

theorem IsWord.append (ha : IsWord a) (hb : IsWord b) : IsWord (a ++ b) := by
  intro c hc
  rw [String.toList_append, List.mem_append] at hc
  rcases hc with hc | hc
  · exact ha c hc
  · exact hb c hc

theorem IsWord.oneLine (h : IsWord a) : OneLine a := fun hmem => by
  have hfalse := h '\n' hmem
  revert hfalse
  decide

/-- A word that is not empty begins with something else than a blank. -/
theorem IsWord.begins (h : IsWord a) (hne : a ≠ "") : Begins a := by
  cases htext : a.toList with
  | nil => exact absurd (String.toList_eq_nil_iff.1 htext) hne
  | cons first rest =>
      refine ⟨first, rest, htext, ?_⟩
      rintro rfl
      have hfalse := h ' ' (by rw [htext]; exact List.mem_cons_self)
      revert hfalse
      decide

theorem IsWord.begins_append (h : IsWord a) (hb : Begins b) : Begins (a ++ b) := by
  by_cases hempty : a = ""
  · rwa [hempty, String.empty_append]
  · exact (h.begins hempty).append b

theorem isIdentifierPart_iff {c : Char} :
    Text.isIdentifierPart c = true ↔ Text.isIdentifierStart c = true ∨ c.isDigit = true := by
  rw [Text.isIdentifierPart, Char.isAlphanum, Bool.or_right_comm, Bool.or_eq_true]
  rfl

theorem isWord_of_isIdentifier (h : Text.isIdentifier a = true) : IsWord a := by
  unfold Text.isIdentifier at h
  intro c hc
  cases htext : a.toList with
  | nil => rw [htext] at hc; cases hc
  | cons first rest =>
      rw [htext] at h hc
      obtain ⟨hfirst, hrest⟩ := Bool.and_eq_true_iff.1 h
      rcases List.mem_cons.1 hc with rfl | hc
      · exact isIdentifierPart_iff.2 (.inl hfirst)
      · exact List.all_eq_true.1 hrest c hc

theorem ne_empty_of_isIdentifier (h : Text.isIdentifier a = true) : a ≠ "" := by
  rintro rfl
  cases h

theorem begins_of_isIdentifier (h : Text.isIdentifier a = true) : Begins a :=
  (isWord_of_isIdentifier h).begins (ne_empty_of_isIdentifier h)

/-- Identifiers with single blanks between them. -/
def IsSpelling (text : String) : Prop :=
  ∃ words : List String, words ≠ [] ∧ (∀ word ∈ words, Text.isIdentifier word = true) ∧
    text = " ".intercalate words

theorem IsSpelling.oneLine (h : IsSpelling a) : OneLine a := by
  obtain ⟨words, _, hwords, rfl⟩ := h
  have hempty : OneLine "" := oneLine_literal (by decide)
  have hblank : OneLine " " := oneLine_literal (by decide)
  refine intercalate_of_append hempty (fun ha hb => oneLine_append_iff.2 ⟨ha, hb⟩) hblank ?_
  exact fun word hword => (isWord_of_isIdentifier (hwords word hword)).oneLine

theorem IsSpelling.begins (h : IsSpelling a) : Begins a := by
  obtain ⟨words, hne, hwords, rfl⟩ := h
  obtain ⟨first, rest, rfl⟩ := List.exists_cons_of_ne_nil hne
  have hfirst := begins_of_isIdentifier (hwords first List.mem_cons_self)
  cases rest with
  | nil => rwa [String.intercalate_singleton]
  | cons second rest =>
      rw [String.intercalate_cons_cons, String.append_assoc]
      exact hfirst.append _

/-! ## Labels -/

/-- A text that can stand at the beginning of a line. -/
structure Label (text : String) : Prop where
  oneLine : OneLine text
  begins : Begins text

theorem Label.append (h : Label a) (hb : OneLine b) : Label (a ++ b) :=
  ⟨oneLine_append_iff.2 ⟨h.oneLine, hb⟩, h.begins.append b⟩

theorem label_literal {first : Char} {rest : List Char} (h : '\n' ∉ first :: rest)
    (hfirst : first ≠ ' ') : Label (no_index (String.ofList (first :: rest))) :=
  ⟨oneLine_literal h, begins_literal hfirst⟩

theorem IsSpelling.label (h : IsSpelling a) : Label a :=
  ⟨h.oneLine, h.begins⟩

end HandleWrap
