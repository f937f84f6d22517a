import HandleWrap.Proofs.Lines
import Mathlib.Data.List.Infix

set_option autoImplicit false

/-! # Lines that check nothing

A check is told by what its line begins with (`checkStarts`). Most lines part from every check
within the literal that they begin with (`Clear`). A line with a name from the user close to its
beginning parts from a check behind that name, or its name ends differently (`calm_name`). -/

namespace HandleWrap

/-! ## Beginnings of lines -/

/-- What a line begins with that looks for a failure or reports one. -/
def checkStarts : List String :=
  ["    throw ", "  options_scoped_set_on_error saved_on_error(", "  auto ctx = ",
    "  auto saved_ctx = ", "  if (!ptr", "  if (res", "  if (!res", "    std::rethrow_exception(",
    "    std::exception_ptr", r"    try {", r"    } catch"]

/-- The same beginnings, character by character. Unification fills in the characters, so nothing has
    to be computed to look at them. -/
def checkChars : {starts : List (List Char) // checkStarts = starts.map String.ofList} :=
  ⟨[_, _, _, _, _, _, _, _, _, _, _], rfl⟩

/-- Whether two texts differ at a place where both have a character. -/
def differ : List Char → List Char → Bool
  | a :: as, b :: bs => a != b || differ as bs
  | _, _ => false

theorem not_prefix_of_differ {a b c : List Char} (h : differ a b = true) : ¬ a <+: b ++ c := by
  induction a generalizing b with
  | nil => cases h
  | cons x xs ih =>
      cases b with
      | nil => cases h
      | cons y ys =>
          rw [differ, Bool.or_eq_true, bne_iff_ne] at h
          rw [List.cons_append, List.cons_prefix_cons]
          rintro ⟨rfl, hprefix⟩
          rcases h with hne | h
          · exact hne rfl
          · exact ih h hprefix

/-- A text does not begin with what its own beginning differs from. -/
theorem not_prefix_append_of_differ {start : List Char} {lead : String} (rest : String)
    (h : differ start lead.toList = true) : ¬ start <+: (lead ++ rest).toList := by
  rw [String.toList_append]
  exact not_prefix_of_differ h

/-- What begins like this is no check. -/
def Clear (lead : List Char) : Prop :=
  ∀ start ∈ checkChars.1, differ start lead = true

instance (lead : List Char) : Decidable (Clear lead) :=
  inferInstanceAs (Decidable (∀ start ∈ checkChars.1, differ start lead = true))

/-- A single line that does not begin like a check. -/
structure Calm (line : String) : Prop where
  oneLine : OneLine line
  unchecked : ∀ start ∈ checkStarts, ¬ start.toList <+: line.toList

variable {line rest : String}

theorem calm_of_chars (hline : OneLine line)
    (h : ∀ start ∈ checkChars.1, ¬ start <+: line.toList) : Calm line := by
  refine ⟨hline, fun start hstart => ?_⟩
  rw [checkChars.2] at hstart
  obtain ⟨chars, hchars, rfl⟩ := List.mem_map.1 hstart
  rw [String.toList_ofList]
  exact h chars hchars

@[simp] theorem calm_lead {lead : List Char} (hlead : Clear lead)
    (hline : OneLine (no_index (String.ofList lead) ++ rest)) :
    Calm (no_index (String.ofList lead) ++ rest) := by
  refine calm_of_chars hline fun start hstart => not_prefix_append_of_differ rest ?_
  rw [String.toList_ofList]
  exact hlead start hstart

@[simp] theorem calm_literal {lead : List Char} (hlead : Clear lead) (hline : '\n' ∉ lead) :
    Calm (no_index (String.ofList lead)) := by
  refine calm_of_chars (oneLine_literal hline) fun start hstart => ?_
  have hprefix : ¬ start <+: lead ++ [] := not_prefix_of_differ (hlead start hstart)
  rwa [String.toList_ofList, ← List.append_nil lead]

@[simp] theorem calm_empty : Calm "" := by
  refine calm_of_chars (oneLine_literal (by decide)) fun start hstart hprefix => ?_
  obtain rfl := List.prefix_nil.1 hprefix
  revert hstart
  decide

/-- All checks are indented. -/
theorem Label.calm (h : Label line) : Calm line := by
  obtain ⟨first, chars, htext, hfirst⟩ := h.begins
  refine calm_of_chars h.oneLine fun start hstart hprefix => ?_
  have hblank : ∀ start ∈ checkChars.1, start.head? = some ' ' := by decide
  obtain ⟨tail, htail⟩ := List.head?_eq_some_iff.1 (hblank start hstart)
  rw [htext, htail, List.cons_prefix_cons] at hprefix
  exact hfirst hprefix.1.symm

@[simp] theorem calm_of_begins (hbegins : Begins line) (hline : OneLine (line ++ rest)) :
    Calm (line ++ rest) :=
  Label.calm ⟨hline, hbegins.append rest⟩

/-- A word that may be empty in front of a clear text. -/
@[simp] theorem calm_word {word : String} {lead : List Char} (hword : IsWord word)
    (hlead : Clear lead)
    (hline : OneLine (word ++ (no_index (String.ofList lead) ++ rest))) :
    Calm (word ++ (no_index (String.ofList lead) ++ rest)) := by
  by_cases hempty : word = ""
  · rw [hempty, String.empty_append] at hline ⊢
    exact calm_lead hlead hline
  · exact Label.calm ⟨hline, (hword.begins hempty).append _⟩

@[simp] theorem calm_word_literal {word : String} {lead : List Char} (hword : IsWord word)
    (hlead : Clear lead) (hline : '\n' ∉ lead) :
    Calm (word ++ (no_index (String.ofList lead))) := by
  have h : Calm (word ++ (String.ofList lead ++ "")) :=
    calm_word hword hlead (by simp +decide [hword.oneLine, hline])
  rwa [String.append_empty] at h

/-! ## Lines that begin with a name -/

/-- If a text goes on behind its first word like another one does behind a word, then the words are
    the same. -/
theorem word_eq_of_prefix {start word tail : List Char} {next : Char}
    (hword : ∀ c ∈ word, Text.isIdentifierPart c = true)
    (hnext : Text.isIdentifierPart next = false)
    (hstart : start.dropWhile Text.isIdentifierPart ≠ [])
    (h : start <+: word ++ next :: tail) :
    start.takeWhile Text.isIdentifierPart = word ∧
      start.dropWhile Text.isIdentifierPart <+: next :: tail := by
  induction word generalizing start with
  | nil =>
      cases start with
      | nil => exact absurd rfl hstart
      | cons first start =>
          obtain ⟨rfl, htail⟩ := List.cons_prefix_cons.1 h
          simp [hnext, htail]
  | cons x word ih =>
      obtain ⟨hx, hrestWord⟩ := List.forall_mem_cons.1 hword
      cases start with
      | nil => exact absurd rfl hstart
      | cons first start =>
          obtain ⟨rfl, hrest⟩ := List.cons_prefix_cons.1 h
          rw [List.dropWhile_cons_of_pos hx] at hstart ⊢
          rw [List.takeWhile_cons_of_pos hx]
          obtain ⟨htake, hdrop⟩ := ih hrestWord hstart hrest
          exact ⟨congrArg _ htake, hdrop⟩

/-- Lines that are fixed but for a name behind `indent`, which ends in `ending` and is followed by
    `next`, are no checks: a check differs in the indentation or behind its own first word, or that
    word ends differently. -/
def NameClear (indent ending next : List Char) : Prop :=
  ∀ start ∈ checkChars.1, differ start indent = true ∨
    (start.drop indent.length).dropWhile Text.isIdentifierPart ≠ [] ∧
      (differ ((start.drop indent.length).dropWhile Text.isIdentifierPart) next = true ∨
        ¬ ending <:+ (start.drop indent.length).takeWhile Text.isIdentifierPart)

instance (indent ending next : List Char) : Decidable (NameClear indent ending next) :=
  inferInstanceAs (Decidable (∀ start ∈ checkChars.1, _))

theorem calm_name {indent ending next : List Char} {first : Char} {name : String}
    (hclear : NameClear indent ending (first :: next)) (hname : IsWord name)
    (hending : IsWord (String.ofList ending)) (hfirst : Text.isIdentifierPart first = false)
    (hline : OneLine (String.ofList indent ++ (name ++ (String.ofList ending ++
      (String.ofList (first :: next) ++ rest))))) :
    Calm (String.ofList indent ++ (name ++ (String.ofList ending ++
      (String.ofList (first :: next) ++ rest)))) := by
  have hword : ∀ c ∈ name.toList ++ ending, Text.isIdentifierPart c = true := by
    simpa only [IsWord, String.toList_append, String.toList_ofList] using hname.append hending
  refine calm_of_chars hline fun start hstart hprefix => ?_
  simp only [String.toList_append, String.toList_ofList] at hprefix
  rcases hclear start hstart with hdiffer | ⟨hbehind, hdiffer⟩
  · exact not_prefix_of_differ hdiffer hprefix
  · -- the check has the indentation, so what is left of it stands at the name
    have hrest : start.drop indent.length <+:
        (name.toList ++ ending) ++ first :: (next ++ rest.toList) := by
      have hdrop := hprefix.drop indent.length
      rw [List.drop_left] at hdrop
      simpa only [List.append_assoc, List.cons_append] using hdrop
    obtain ⟨hsame, hdrop⟩ := word_eq_of_prefix hword hfirst hbehind hrest
    rcases hdiffer with hdiffer | hdiffer
    · exact not_prefix_of_differ hdiffer hdrop
    · exact hdiffer (hsame ▸ List.suffix_append _ _)

@[simp] theorem calm_handleLine {name : String} (hname : IsWord name) :
    Calm ("  " ++ (name ++ " *ptr = nullptr;")) := by
  have h : Calm ("  " ++ (name ++ ("" ++ (" *" ++ "ptr = nullptr;")))) :=
    calm_name (by decide) hname (fun _ hc => by cases hc) (by decide)
      (by simp +decide [hname.oneLine])
  simpa using h

@[simp] theorem calm_releaseLine {name : String} (hname : IsWord name) :
    Calm ("  " ++ (name ++ " *tmp = ptr;")) := by
  have h : Calm ("  " ++ (name ++ ("" ++ (" *" ++ "tmp = ptr;")))) :=
    calm_name (by decide) hname (fun _ hc => by cases hc) (by decide)
      (by simp +decide [hname.oneLine])
  simpa using h

@[simp] theorem calm_freeLine {name : String} (hname : IsWord name) :
    Calm ("    " ++ (name ++ "_free(ptr);")) := by
  have h : Calm ("    " ++ (name ++ ("_free" ++ ("(" ++ "ptr);")))) :=
    calm_name (by decide) hname (isWord_of_isIdentifier (by decide)) (by decide)
      (by simp +decide [hname.oneLine])
  simpa using h

@[simp] theorem calm_trampolineLine {name : String} (hname : IsWord name) (hrest : OneLine rest) :
    Calm ("  auto " ++ (name ++ ("_lambda = [](" ++ rest))) := by
  have h : Calm ("  auto " ++ (name ++ ("_lambda" ++ (" = [](" ++ rest)))) :=
    calm_name (by decide) hname (isWord_of_isIdentifier (by decide)) (by decide)
      (by simp +decide [hname.oneLine, hrest])
  have hjoin : "_lambda" ++ (" = [](" ++ rest) = "_lambda = [](" ++ rest := by
    rw [← String.append_assoc]
    rfl
  rwa [hjoin] at h

/-! ## Texts -/

/-- No line of the text begins like a check. -/
def AllCalm (code : Code) : Prop :=
  ∀ line ∈ code, Calm line

@[simp] theorem allCalm_nil : AllCalm [] :=
  fun _ h => absurd h List.not_mem_nil

@[simp] theorem allCalm_cons_iff {code : Code} :
    AllCalm (line :: code) ↔ Calm line ∧ AllCalm code :=
  List.forall_mem_cons

@[simp] theorem allCalm_append_iff {a b : Code} : AllCalm (a ++ b) ↔ AllCalm a ∧ AllCalm b :=
  List.forall_mem_append

end HandleWrap
