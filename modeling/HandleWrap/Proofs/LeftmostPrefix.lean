import HandleWrap.Spelling

set_option autoImplicit false

/-! # The leftmost prefix of a spelling

The spelling of an enumeration can hold the C prefix in several places, which may even overlap. Only
the leftmost one gives way to the namespace, and what stands in its place is not looked at again
(`enumType_replaces_leftmost`). The search goes through the text from the left: where the pattern
does not stand, one character is passed over, and the leftmost occurrence in what follows is that of
the whole text (`Leftmost.cons`). -/

namespace HandleWrap

/-! ## Occurrences in a text -/

namespace Text

variable {pattern text before after : List Char}

/-- `before` and `after` stand around the leftmost occurrence of the pattern in the text. -/
structure Leftmost (pattern text before after : List Char) : Prop where
  splits : text = before ++ pattern ++ after
  /-- No occurrence starts earlier. -/
  first : ∀ front back, text = front ++ pattern ++ back → before.length ≤ front.length

theorem stripLeading?_eq_none_iff : stripLeading? pattern text = none ↔ ¬ pattern <+: text := by
  constructor
  · rintro hnone ⟨rest, rfl⟩
    rw [stripLeading?_append] at hnone
    cases hnone
  · intro hprefix
    cases hstrip : stripLeading? pattern text with
    | none => rfl
    | some rest => exact absurd ⟨rest, (eq_append_of_stripLeading? hstrip).symm⟩ hprefix

/-- An occurrence at the very beginning is the leftmost one. -/
theorem leftmost_append (pattern rest : List Char) : Leftmost pattern (pattern ++ rest) [] rest :=
  ⟨rfl, fun _ _ _ => Nat.zero_le _⟩

/-- The search may pass over a character where the pattern does not stand. -/
theorem Leftmost.cons (h : Leftmost pattern text before after) {c : Char}
    (hc : ¬ pattern <+: c :: text) : Leftmost pattern (c :: text) (c :: before) after where
  splits := by rw [h.splits]; rfl
  first front back hsplit := by
    cases front with
    | nil => exact absurd ⟨back, hsplit.symm⟩ hc
    | cons d front =>
        have hrest : text = front ++ pattern ++ back := (List.cons.inj hsplit).2
        exact Nat.succ_le_succ (h.first front back hrest)

/-- A replacement takes the place of the leftmost occurrence, or there is none. -/
theorem replaceLeftmost_spec (pattern new text : List Char) :
    (∃ before after, Leftmost pattern text before after ∧
      replaceLeftmost pattern new text = before ++ new ++ after) ∨
    (¬ pattern <:+: text ∧ replaceLeftmost pattern new text = text) := by
  induction text with
  | nil =>
      cases pattern with
      | nil => exact .inl ⟨[], [], leftmost_append [] [], by simp [replaceLeftmost]⟩
      | cons p pattern => exact .inr ⟨by simp, rfl⟩
  | cons c text ih =>
      cases hstrip : stripLeading? pattern (c :: text) with
      | some rest =>
          refine .inl ⟨[], rest, ?_, by rw [replaceLeftmost, hstrip]; rfl⟩
          rw [eq_append_of_stripLeading? hstrip]
          exact leftmost_append pattern rest
      | none =>
          have hc : ¬ pattern <+: c :: text := stripLeading?_eq_none_iff.1 hstrip
          have hcons : replaceLeftmost pattern new (c :: text) =
              c :: replaceLeftmost pattern new text := by
            rw [replaceLeftmost, hstrip]
          rw [hcons]
          rcases ih with ⟨before, after, hleftmost, hreplaced⟩ | ⟨habsent, hsame⟩
          · exact .inl ⟨c :: before, after, hleftmost.cons hc, by rw [hreplaced]; rfl⟩
          · refine .inr ⟨fun hinfix => ?_, by rw [hsame]⟩
            exact (List.infix_cons_iff.1 hinfix).elim hc habsent

theorem infix_toList_iff {pattern text : String} :
    pattern.toList <:+: text.toList ↔ ∃ front back, text = front ++ pattern ++ back := by
  constructor
  · rintro ⟨front, back, hsplit⟩
    refine ⟨String.ofList front, String.ofList back, String.toList_injective ?_⟩
    simp [← hsplit]
  · rintro ⟨front, back, rfl⟩
    exact ⟨front.toList, back.toList, by simp⟩

end Text

/-! ## Enumerations -/

/-- **The namespace takes the place of the leftmost C prefix,** and a spelling without the prefix
    stays as it is. -/
theorem enumType_replaces_leftmost (s : Settings) (spelling : String) :
    ((∃ front back, spelling = front ++ s.cPrefix ++ back) →
      ∃ before after, spelling = before ++ s.cPrefix ++ after ∧
        (∀ front back, spelling = front ++ s.cPrefix ++ back → before.length ≤ front.length) ∧
        s.enumType spelling = before ++ s.targetNamespace ++ "::" ++ after) ∧
    ((¬ ∃ front back, spelling = front ++ s.cPrefix ++ back) → s.enumType spelling = spelling) := by
  rw [← Text.infix_toList_iff]
  rcases Text.replaceLeftmost_spec s.cPrefix.toList (s.targetNamespace ++ "::").toList
    spelling.toList with ⟨before, after, hleftmost, hreplaced⟩ | ⟨habsent, hsame⟩
  · have hoccurs : s.cPrefix.toList <:+: spelling.toList := ⟨before, after, hleftmost.splits.symm⟩
    refine ⟨fun _ => ?_, fun habsent => absurd hoccurs habsent⟩
    refine ⟨String.ofList before, String.ofList after, ?_, ?_, ?_⟩
    · apply String.toList_injective
      simp [hleftmost.splits]
    · intro front back hsplit
      have hchars : spelling.toList = front.toList ++ s.cPrefix.toList ++ back.toList := by
        rw [hsplit, String.toList_append, String.toList_append]
      rw [String.length_ofList, ← String.length_toList]
      exact hleftmost.first front.toList back.toList hchars
    · apply String.toList_injective
      rw [Settings.enumType, hreplaced]
      simp
  · refine ⟨fun hoccurs => absurd hoccurs habsent, fun _ => ?_⟩
    rw [Settings.enumType, hsame, String.ofList_toList]

/-- Settings with a prefix that overlaps itself, and a namespace that holds it again. -/
def overlapping : Settings :=
  { Settings.standard with targetNamespace := "ababa", cPrefix := "aba" }

theorem enumType_replaces_leftmost_overlapping :
    (∃ front back, "enum cababa" = front ++ overlapping.cPrefix ++ back) ∧
      (∃ before after, "enum cababa" = before ++ overlapping.cPrefix ++ after ∧
        (∀ front back, "enum cababa" = front ++ overlapping.cPrefix ++ back →
          before.length ≤ front.length) ∧
        overlapping.enumType "enum cababa" =
          before ++ overlapping.targetNamespace ++ "::" ++ after) ∧
      overlapping.enumType "enum cababa" = "enum cababa::ba" := by
  have hoccurs : ∃ front back, "enum cababa" = front ++ overlapping.cPrefix ++ back :=
    ⟨"enum cab", "", by decide⟩
  exact ⟨hoccurs, (enumType_replaces_leftmost overlapping _).1 hoccurs, by decide⟩

end HandleWrap
