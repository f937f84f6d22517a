import HandleWrap.Proofs.WellSpelled
import HandleWrap.Settings.Load

set_option autoImplicit false

/-! # When derived spellings are identifiers

Settings that can be used have identifiers for namespaces and for the targets of renames. Of the C
prefix they only promise that it is not empty, and the names of the C library, the ownership marks
and the option that keeps the library quiet are all made from it. `derived_identifiers_iff` says
which prefixes make identifiers of them: an identifier does it for all three, and for names of the C
library nothing else does. An ownership mark has underscores in front, so its prefix may begin with
a digit; the option is in upper case, and ten characters beyond ASCII have an upper case in
ASCII. -/

namespace HandleWrap

variable {s : Settings} {name text a b : String} {c : Char}

/-! ## Characters by their codes -/

theorem isDigit_iff : c.isDigit = true ↔ 48 ≤ c.toNat ∧ c.toNat ≤ 57 := by
  simp only [Char.isDigit, Bool.and_eq_true, decide_eq_true_eq, ge_iff_le, UInt32.le_iff_toNat_le]
  rfl

theorem isIdentifierStart_iff :
    Text.isIdentifierStart c = true ↔
      (65 ≤ c.toNat ∧ c.toNat ≤ 90) ∨ c.toNat = 95 ∨ (97 ≤ c.toNat ∧ c.toNat ≤ 122) := by
  have hunderscore : c = '_' ↔ c.toNat = 95 := Char.toNat_inj.symm
  have hupper : c.isUpper = true ↔ 65 ≤ c.toNat ∧ c.toNat ≤ 90 := decide_eq_true_iff
  have hlower : c.isLower = true ↔ 97 ≤ c.toNat ∧ c.toNat ≤ 122 :=
    Bool.and_eq_true_iff.trans (and_congr decide_eq_true_iff decide_eq_true_iff)
  have hletter : c.isAlpha = true ↔ c.isUpper = true ∨ c.isLower = true := Bool.or_eq_true_iff
  rw [Text.isIdentifierStart, Bool.or_eq_true, hletter, hupper, hlower, beq_iff_eq, hunderscore]
  omega

/-! ## Identifiers -/

/-- The text begins with a digit. -/
def LeadsWithDigit (text : String) : Prop :=
  ∃ c, text.toList.head? = some c ∧ c.isDigit = true

/-- An identifier is a word that is not empty and does not begin with a digit. -/
theorem isIdentifier_iff :
    Text.isIdentifier text = true ↔ text ≠ "" ∧ IsWord text ∧ ¬ LeadsWithDigit text := by
  unfold Text.isIdentifier IsWord LeadsWithDigit
  cases htext : text.toList with
  | nil => simp [String.toList_eq_nil_iff.1 htext]
  | cons first rest =>
      have hne : text ≠ "" := by
        rintro rfl
        cases htext
      have hfirst : Text.isIdentifierStart first = true ↔
          Text.isIdentifierPart first = true ∧ ¬ first.isDigit = true := by
        rw [isIdentifierPart_iff, isIdentifierStart_iff, isDigit_iff]
        omega
      simp only [Bool.and_eq_true, List.all_eq_true, hfirst, List.forall_mem_cons, List.head?_cons,
        Option.some.injEq, exists_eq_left', ne_eq, hne, not_false_eq_true, true_and]
      tauto

theorem isWord_append_iff : IsWord (a ++ b) ↔ IsWord a ∧ IsWord b := by
  simp only [IsWord, String.toList_append, List.forall_mem_append]

/-- A word behind it does not make an identifier of something else. -/
theorem isIdentifier_append_iff (ha : a ≠ "") (hb : IsWord b) :
    Text.isIdentifier (a ++ b) = true ↔ Text.isIdentifier a = true := by
  have hne : a.toList ≠ [] := mt String.toList_eq_nil_iff.1 ha
  have hlead : LeadsWithDigit (a ++ b) ↔ LeadsWithDigit a := by
    rw [LeadsWithDigit, String.toList_append, List.head?_append_of_ne_nil _ hne, LeadsWithDigit]
  have hab : a ++ b ≠ "" := fun h => ha (String.append_eq_empty_iff.1 h).1
  rw [isIdentifier_iff, isIdentifier_iff, isWord_append_iff, hlead, and_iff_left hb]
  tauto

/-- Behind an underscore every word makes an identifier. -/
theorem isIdentifier_underscores_iff :
    Text.isIdentifier ("__" ++ b) = true ↔ IsWord b := by
  constructor
  · intro h
    exact (isWord_append_iff.1 (isWord_of_isIdentifier h)).2
  · intro h
    exact (isIdentifier_append_iff (by decide) h).2 (by decide)

/-! ## Upper case -/

/-- The codes of the characters beyond ASCII whose upper case is made of ASCII letters: sharp s,
    dotless i, long s and the Latin ligatures. -/
def asciiUppercased : List Nat :=
  [0xdf, 0x131, 0x17f, 0xfb00, 0xfb01, 0xfb02, 0xfb03, 0xfb04, 0xfb05, 0xfb06]

/-- The upper case of the character is made of parts of identifiers. -/
def UppercasesToParts (c : Char) : Prop :=
  Text.isIdentifierPart c = true ∨ c.toNat ∈ asciiUppercased

/-- Every character of ASCII by its code. -/
theorem forall_ascii {P : Char → Prop} (h : ∀ n : Fin 128, P (Char.ofNat n)) (hc : c.toNat < 128) :
    P c := by
  have hP := h ⟨c.toNat, hc⟩
  rwa [Char.ofNat_toNat] at hP

theorem lt_of_isIdentifierPart (h : Text.isIdentifierPart c = true) : c.toNat < 128 := by
  rw [isIdentifierPart_iff, isIdentifierStart_iff, isDigit_iff] at h
  omega

/-- A character that stands for a code beyond ASCII is no part of identifiers. -/
theorem not_isIdentifierPart_ofNat {n : Nat} (hn : 128 ≤ n) :
    Text.isIdentifierPart (Char.ofNat n) = false := by
  refine Bool.eq_false_iff.2 fun h => ?_
  rcases Text.toNat_ofNat n with hcode | hzero
  · exact absurd (hcode ▸ lt_of_isIdentifierPart h) (Nat.not_lt.2 hn)
  · rw [isIdentifierPart_iff, isIdentifierStart_iff, isDigit_iff, hzero] at h
    omega

/-- Every character with several in upper case is listed, or one of these is no part. -/
theorem not_parts_of_upperSequences {entry : Nat × List Nat} (h : entry ∈ Text.upperSequences) :
    entry.1 ∈ asciiUppercased ∨
      (entry.2.map Char.ofNat).all Text.isIdentifierPart = false := by
  revert entry
  decide +kernel

/-- Every run maps ASCII, or one character that is listed, or to codes beyond ASCII. -/
theorem not_parts_of_upperRuns {run : Nat × Nat × Nat × Nat} (h : run ∈ Text.upperRuns) :
    run.2.1 < 128 ∨ run.1 = run.2.1 ∧ run.1 ∈ asciiUppercased ∨ 128 ≤ run.2.2.2 := by
  revert run
  decide +kernel

/-- In ASCII every character has one in upper case. -/
theorem upperChar_of_ascii (hc : c.toNat < 128) : Text.upperChar c = [c.toUpper] :=
  forall_ascii (P := fun c => Text.upperChar c = [c.toUpper]) (by decide +kernel) hc

/-- The upper case of a part is a part, and a digit only if the part is one. -/
theorem toUpper_of_ascii (hc : c.toNat < 128) :
    Text.isIdentifierPart c.toUpper = Text.isIdentifierPart c ∧ c.toUpper.isDigit = c.isDigit :=
  forall_ascii (P := fun c => Text.isIdentifierPart c.toUpper = Text.isIdentifierPart c ∧
    c.toUpper.isDigit = c.isDigit) (by decide) hc

/-- **Which characters have an upper case that fits into identifiers.** -/
theorem all_upperChar_iff :
    (∀ upper ∈ Text.upperChar c, Text.isIdentifierPart upper = true) ↔ UppercasesToParts c := by
  rw [← List.all_eq_true, UppercasesToParts]
  by_cases hascii : c.toNat < 128
  · have hunlisted : c.toNat ∉ asciiUppercased := by
      intro hlisted
      have hall : ∀ n ∈ asciiUppercased, ¬ n < 128 := by decide
      exact hall _ hlisted hascii
    simp [upperChar_of_ascii hascii, (toUpper_of_ascii hascii).1, hunlisted]
  have hpart : Text.isIdentifierPart c = false :=
    Bool.eq_false_iff.2 fun h => hascii (lt_of_isIdentifierPart h)
  by_cases hlisted : c.toNat ∈ asciiUppercased
  · have hall : ∀ n ∈ asciiUppercased,
        (Text.upperChar (Char.ofNat n)).all Text.isIdentifierPart = true := by decide +kernel
    have hc := hall c.toNat hlisted
    rw [Char.ofNat_toNat] at hc
    exact iff_of_true hc (.inr hlisted)
  · refine iff_of_false (Bool.eq_false_iff.1 ?_) (by simp [hpart, hlisted])
    unfold Text.upperChar
    split
    · next codes hcodes =>
        obtain ⟨before, after, htable, _⟩ := List.lookup_eq_some_iff.1 hcodes
        have hentry : (c.toNat, codes) ∈ Text.upperSequences := htable ▸ List.mem_append_cons_self
        exact (not_parts_of_upperSequences hentry).resolve_left hlisted
    · split
      · next code hcode =>
          obtain ⟨run, hrun, hinRun⟩ := List.exists_of_findSome?_eq_some hcode
          have hbeyond := not_parts_of_upperRuns hrun
          obtain ⟨first, last, step, start⟩ := run
          simp only [Text.upperInRun?, Option.ite_none_right_eq_some, Option.some.injEq] at hinRun
          dsimp only at hbeyond
          have hcode : 128 ≤ code := by
            rcases hbeyond with hlast | ⟨hone, hmem⟩ | hstart
            · omega
            · obtain rfl : first = c.toNat := by omega
              exact absurd hmem hlisted
            · omega
          simp [not_isIdentifierPart_ofNat hcode]
      · simp [hpart]

/-- Such an upper case begins with a digit only if the character is one. -/
theorem head?_upperChar (h : UppercasesToParts c) :
    (Text.upperChar c).head?.map Char.isDigit = some c.isDigit := by
  rcases h with hpart | hlisted
  · have hascii := lt_of_isIdentifierPart hpart
    rw [upperChar_of_ascii hascii, List.head?_singleton, Option.map_some,
      (toUpper_of_ascii hascii).2]
  · have hall : ∀ n ∈ asciiUppercased, (Text.upperChar (Char.ofNat n)).head?.map Char.isDigit =
        some (Char.ofNat n).isDigit := by decide +kernel
    have hc := hall c.toNat hlisted
    rwa [Char.ofNat_toNat] at hc

theorem isWord_upperCase_iff :
    IsWord (Text.upperCase text) ↔ ∀ c ∈ text.toList, UppercasesToParts c := by
  simp only [IsWord, Text.upperCase, String.toList_ofList, List.mem_flatMap, ← all_upperChar_iff]
  constructor
  · intro h c hc upper hupper
    exact h upper ⟨c, hc, hupper⟩
  · rintro h upper ⟨c, hc, hupper⟩
    exact h c hc upper hupper

/-- What stands behind a text does not change what it begins with. -/
theorem leadsWithDigit_upperCase_append (ha : a ≠ "")
    (h : ∀ c ∈ a.toList, UppercasesToParts c) :
    LeadsWithDigit (Text.upperCase a ++ b) ↔ LeadsWithDigit a := by
  unfold LeadsWithDigit
  rw [String.toList_append, Text.upperCase, String.toList_ofList]
  cases htext : a.toList with
  | nil => exact absurd (String.toList_eq_nil_iff.1 htext) ha
  | cons first rest =>
      rw [htext] at h
      obtain ⟨upper, hupper, hdigit⟩ :=
        Option.map_eq_some_iff.1 (head?_upperChar (h first List.mem_cons_self))
      obtain ⟨others, hothers⟩ := List.head?_eq_some_iff.1 hupper
      simp [hothers, hdigit]

/-! ## Derived spellings -/

/-- A rename leads from an identifier to an identifier. -/
theorem isIdentifier_renamed (hs : s.problem? = none) (hname : Text.isIdentifier name = true) :
    Text.isIdentifier (s.renamed name) = true := by
  unfold Settings.renamed
  cases htarget : s.renames.get? name with
  | none => exact hname
  | some target =>
      exact (identifiers_of_problem? hs).2.2 _ (s.renames.get?_eq_some_iff.1 htarget)

theorem cPrefix_ne_empty (hs : s.problem? = none) : s.cPrefix ≠ "" := by
  intro hempty
  simp only [Settings.problem?, hempty] at hs
  split at hs
  · cases hs
  · split at hs
    · cases hs
    · cases hs

theorem isIdentifier_onErrorContinue_iff (hne : s.cPrefix ≠ "") :
    Text.isIdentifier s.onErrorContinue = true ↔
      (∀ c ∈ s.cPrefix.toList, UppercasesToParts c) ∧ ¬ LeadsWithDigit s.cPrefix := by
  have hrest : IsWord "ON_ERROR_CONTINUE" := isWord_of_isIdentifier (by decide)
  have hoption : Text.upperCase s.cPrefix ++ "ON_ERROR_CONTINUE" ≠ "" := fun h =>
    absurd (String.append_eq_empty_iff.1 h).2 (by decide)
  rw [Settings.onErrorContinue, isIdentifier_iff, and_iff_right hoption, isWord_append_iff,
    and_iff_left hrest, isWord_upperCase_iff]
  exact and_congr_right fun h => not_congr (leadsWithDigit_upperCase_append hne h)

/-- **When derived spellings are identifiers:** with settings that can be used, both namespaces and
    every renamed identifier are. For what is made from the C prefix and an identifier it takes the
    condition on the prefix that each line says; the prefix is an identifier exactly if all of it
    is. -/
theorem derived_identifiers_iff (hs : s.problem? = none)
    (hname : Text.isIdentifier name = true) :
    Text.isIdentifier s.targetNamespace = true ∧ Text.isIdentifier s.quietNamespace = true ∧
      Text.isIdentifier (s.renamed name) = true ∧
      (Text.isIdentifier (s.cName name) = true ↔ Text.isIdentifier s.cPrefix = true) ∧
      (Text.isIdentifier (s.ownershipMark name) = true ↔ IsWord s.cPrefix) ∧
      (Text.isIdentifier s.onErrorContinue = true ↔
        (∀ c ∈ s.cPrefix.toList, UppercasesToParts c) ∧ ¬ LeadsWithDigit s.cPrefix) ∧
      ((Text.isIdentifier (s.cName name) = true ∧ Text.isIdentifier (s.ownershipMark name) = true ∧
          Text.isIdentifier s.onErrorContinue = true) ↔ Text.isIdentifier s.cPrefix = true) := by
  have hword : IsWord name := isWord_of_isIdentifier hname
  have hne := cPrefix_ne_empty hs
  obtain ⟨htarget, hquiet, _⟩ := identifiers_of_problem? hs
  have hcName : Text.isIdentifier (s.cName name) = true ↔ Text.isIdentifier s.cPrefix = true :=
    isIdentifier_append_iff hne hword
  have hmark : Text.isIdentifier (s.ownershipMark name) = true ↔ IsWord s.cPrefix := by
    rw [Settings.ownershipMark, String.append_assoc, isIdentifier_underscores_iff,
      isWord_append_iff, and_iff_left hword]
  have hoption := isIdentifier_onErrorContinue_iff hne
  refine ⟨htarget, hquiet, isIdentifier_renamed hs hname, hcName, hmark, hoption, ?_⟩
  rw [hcName, hmark, hoption]
  refine and_iff_left_of_imp fun hprefix => ?_
  obtain ⟨_, hparts, hlead⟩ := isIdentifier_iff.1 hprefix
  exact ⟨hparts, fun c hc => .inl (hparts c hc), hlead⟩

theorem derived_identifiers_iff_standard :
    Settings.standard.problem? = none ∧ Text.isIdentifier "union" = true ∧
      Text.isIdentifier Settings.standard.targetNamespace = true ∧
      Text.isIdentifier Settings.standard.quietNamespace = true ∧
      Text.isIdentifier (Settings.standard.renamed "union") = true ∧
      (Text.isIdentifier (Settings.standard.cName "union") = true ↔
        Text.isIdentifier Settings.standard.cPrefix = true) ∧
      (Text.isIdentifier (Settings.standard.ownershipMark "union") = true ↔
        IsWord Settings.standard.cPrefix) ∧
      (Text.isIdentifier Settings.standard.onErrorContinue = true ↔
        (∀ c ∈ Settings.standard.cPrefix.toList, UppercasesToParts c) ∧
          ¬ LeadsWithDigit Settings.standard.cPrefix) ∧
      ((Text.isIdentifier (Settings.standard.cName "union") = true ∧
          Text.isIdentifier (Settings.standard.ownershipMark "union") = true ∧
          Text.isIdentifier Settings.standard.onErrorContinue = true) ↔
        Text.isIdentifier Settings.standard.cPrefix = true) :=
  ⟨by decide, by decide, derived_identifiers_iff (by decide) (by decide)⟩

/-- A document may give a prefix that makes identifiers of nothing. -/
theorem not_derived_identifiers_hyphenated :
    ∃ s, Settings.ofToml "c_prefix = \"isl-\"" = .ok s ∧ s.problem? = none ∧
      Text.isIdentifier "take" = true ∧ Text.isIdentifier (s.cName "take") = false ∧
      Text.isIdentifier (s.ownershipMark "take") = false ∧
      Text.isIdentifier s.onErrorContinue = false := by
  have hprefix : (Settings.ofToml "c_prefix = \"isl-\"").toOption.map Settings.cPrefix =
      some "isl-" := by decide +kernel
  cases hs : Settings.ofToml "c_prefix = \"isl-\"" with
  | error e => rw [hs] at hprefix; cases hprefix
  | ok s =>
      have hhyphen : s.cPrefix = "isl-" := by simpa [hs, Except.toOption] using hprefix
      refine ⟨s, rfl, Settings.problem?_of_ofToml hs, by decide, ?_, ?_, ?_⟩
      · rw [Settings.cName, hhyphen]; decide
      · rw [Settings.ownershipMark, hhyphen]; decide
      · rw [Settings.onErrorContinue, hhyphen]; decide +kernel

end HandleWrap
