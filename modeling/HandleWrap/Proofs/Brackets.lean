import HandleWrap.Text.Code
import HandleWrap.Text.Uppercase
import Mathlib.Data.List.Basic

set_option autoImplicit false

/-! # Brackets

The brackets of a text are a Dyck word if every closing bracket matches the last one that is still
open and none stays open. A text is read with the list of the closing brackets that are expected,
the next one first (`unclosed?`); reading goes through the pieces of a text one after the other, and
a text whose reading ends where it began is balanced. For whole texts this is the same as the
grammar (`dyck_iff`). -/

namespace HandleWrap

variable {a b : String} {chars expected front word : List Char}

/-! ## The grammar -/

/-- The bracket that closes an opening one. -/
def closing? : Char → Option Char
  | '{' => some '}'
  | '(' => some ')'
  | '[' => some ']'
  | _ => none

/-- Whether this is a closing bracket. -/
def isClosing (c : Char) : Bool :=
  c == '}' || c == ')' || c == ']'

/-- Whether this is one of the six brackets. -/
def isBracket (c : Char) : Bool :=
  (closing? c).isSome || isClosing c

/-- Brackets that match: nothing, or an opening bracket with its closing one, with brackets that
    match between the two and after them. -/
inductive Dyck : List Char → Prop where
  | nil : Dyck []
  | nest {opening closing : Char} {inner rest : List Char} (h : closing? opening = some closing)
      (hinner : Dyck inner) (hrest : Dyck rest) : Dyck (opening :: (inner ++ closing :: rest))

/-! ## Reading -/

/-- The closing brackets that are expected after one more character, the next one first. There is
    no way on from a closing bracket that is not the next one. -/
def readChar? (expected : List Char) (c : Char) : Option (List Char) :=
  match closing? c with
  | some closing => some (closing :: expected)
  | none =>
    if isClosing c then
      match expected with
      | [] => none
      | next :: rest => if next = c then some rest else none
    else some expected

/-- The closing brackets that are expected after more characters. -/
def readChars? (expected chars : List Char) : Option (List Char) :=
  chars.foldlM readChar? expected

/-- The closing brackets that are expected after a text. -/
def unclosed? (expected : List Char) (text : String) : Option (List Char) :=
  readChars? expected text.toList

theorem readChars?_cons (expected : List Char) (c : Char) (chars : List Char) :
    readChars? expected (c :: chars) =
      (readChar? expected c).bind fun after => readChars? after chars :=
  rfl

theorem readChars?_append (expected first second : List Char) :
    readChars? expected (first ++ second) =
      (readChars? expected first).bind fun after => readChars? after second :=
  List.foldlM_append

theorem eq_of_isBracket {c : Char} (h : isBracket c = true) :
    c = '{' ∨ c = '(' ∨ c = '[' ∨ c = '}' ∨ c = ')' ∨ c = ']' := by
  unfold isBracket closing? isClosing at h
  split at h
  · simp
  · simp
  · simp
  · simp only [Option.isSome_none, Bool.false_or, Bool.or_eq_true, beq_iff_eq, or_assoc] at h
    simp only [h, or_true]

theorem isBracket_eq_false_iff {c : Char} :
    isBracket c = false ↔ closing? c = none ∧ isClosing c = false := by
  rw [isBracket, Bool.or_eq_false_iff, Option.isSome_eq_false_iff, Option.isNone_iff_eq_none]

/-- A character opens a bracket, closes the one that is expected next, or is none. -/
theorem readChar?_eq_some_iff {c : Char} :
    readChar? expected c = some front ↔
      (∃ closing, closing? c = some closing ∧ front = closing :: expected) ∨
      (closing? c = none ∧ isClosing c = true ∧ expected = c :: front) ∨
      (isBracket c = false ∧ expected = front) := by
  rw [isBracket_eq_false_iff]
  unfold readChar?
  cases hopening : closing? c with
  | some closing => simp [@eq_comm _ front]
  | none =>
      cases hclosing : isClosing c with
      | false => simp
      | true => cases expected <;> simp

theorem readChar?_of_not_bracket (expected : List Char) {c : Char} (h : isBracket c = false) :
    readChar? expected c = some expected :=
  readChar?_eq_some_iff.2 (Or.inr (Or.inr ⟨h, rfl⟩))

/-- What a character does it does wherever it stands. -/
theorem readChar?_append {c : Char} (h : readChar? expected c = some front)
    (outer : List Char) : readChar? (expected ++ outer) c = some (front ++ outer) := by
  rw [readChar?_eq_some_iff] at h ⊢
  rcases h with ⟨closing, hopening, rfl⟩ | ⟨hopening, hclosing, rfl⟩ | ⟨hbracket, rfl⟩
  · exact Or.inl ⟨closing, hopening, rfl⟩
  · exact Or.inr (Or.inl ⟨hopening, hclosing, rfl⟩)
  · exact Or.inr (Or.inr ⟨hbracket, rfl⟩)

/-- What a text does it does wherever it stands. -/
theorem readChars?_append_expected (h : readChars? expected chars = some front)
    (outer : List Char) : readChars? (expected ++ outer) chars = some (front ++ outer) := by
  induction chars generalizing expected with
  | nil =>
      cases h
      rfl
  | cons c chars ih =>
      rw [readChars?_cons, Option.bind_eq_some_iff] at h
      obtain ⟨after, hafter, hrest⟩ := h
      rw [readChars?_cons, readChar?_append hafter outer, Option.bind_some, ih hrest]

/-! ## The reader and the grammar -/

/-- The word closes what is expected, in order, and what it opens itself. -/
inductive Closes : List Char → List Char → Prop where
  | done {word : List Char} (h : Dyck word) : Closes [] word
  | next {closing : Char} {expected inner rest : List Char} (hinner : Dyck inner)
      (hrest : Closes expected rest) : Closes (closing :: expected) (inner ++ closing :: rest)

theorem Closes.open {opening closing : Char} (hopening : closing? opening = some closing)
    (h : Closes (closing :: expected) word) : Closes expected (opening :: word) := by
  cases h with
  | next hinner hrest =>
      cases hrest with
      | done hrest => exact .done (.nest hopening hinner hrest)
      | @next closing' _ inner' rest' hinner' hrest =>
          have hnest := @Closes.next closing' _ _ rest' (.nest hopening hinner hinner') hrest
          simpa only [List.cons_append, List.append_assoc] using hnest

/-- The brackets of a text that is read to its end close what was expected. -/
theorem closes_of_readChars? (h : readChars? expected chars = some []) :
    Closes expected (chars.filter isBracket) := by
  induction chars generalizing expected with
  | nil =>
      cases h
      exact .done .nil
  | cons c chars ih =>
      rw [readChars?_cons, Option.bind_eq_some_iff] at h
      obtain ⟨after, hafter, hrest⟩ := h
      have hcloses := ih hrest
      rcases readChar?_eq_some_iff.1 hafter with
        ⟨closing, hopening, rfl⟩ | ⟨_, hclosing, rfl⟩ | ⟨hbracket, rfl⟩
      · have hbracket : isBracket c = true := by rw [isBracket, hopening]; rfl
        rw [List.filter_cons_of_pos hbracket]
        exact hcloses.open hopening
      · have hbracket : isBracket c = true := by rw [isBracket, hclosing, Bool.or_true]
        rw [List.filter_cons_of_pos hbracket]
        exact @Closes.next c _ [] _ .nil hcloses
      · rwa [List.filter_cons_of_neg (by rw [hbracket]; exact Bool.false_ne_true)]

theorem readChars?_of_dyck (h : Dyck word) (expected : List Char) :
    readChars? expected word = some expected := by
  induction h generalizing expected with
  | nil => rfl
  | @nest opening closing inner rest hopening _ _ ihinner ihrest =>
      have hopens : readChar? expected opening = some (closing :: expected) :=
        readChar?_eq_some_iff.2 (Or.inl ⟨closing, hopening, rfl⟩)
      have hcloses : readChar? (closing :: expected) closing = some expected := by
        unfold closing? at hopening
        split at hopening
        all_goals cases hopening
        all_goals rfl
      rw [readChars?_cons, hopens, Option.bind_some, readChars?_append, ihinner, Option.bind_some,
        readChars?_cons, hcloses, Option.bind_some, ihrest]

/-- Characters that are no brackets are skipped. -/
theorem readChars?_filter (expected chars : List Char) :
    readChars? expected (chars.filter isBracket) = readChars? expected chars := by
  induction chars generalizing expected with
  | nil => rfl
  | cons c chars ih =>
      cases hbracket : isBracket c with
      | false =>
          rw [List.filter_cons_of_neg (by rw [hbracket]; exact Bool.false_ne_true), ih,
            readChars?_cons, readChar?_of_not_bracket expected hbracket, Option.bind_some]
      | true =>
          rw [List.filter_cons_of_pos hbracket, readChars?_cons, readChars?_cons]
          exact congrArg _ (funext fun after => ih after)

/-- **The reader decides the grammar.** -/
theorem dyck_iff : Dyck (chars.filter isBracket) ↔ readChars? [] chars = some [] := by
  constructor
  · intro h
    rw [← readChars?_filter, readChars?_of_dyck h]
  · intro h
    cases closes_of_readChars? h with
    | done hdyck => exact hdyck

example : Dyck (r"[](int x) { f(x); }".toList.filter isBracket) :=
  dyck_iff.2 (by decide)

/-! ## Texts -/

/-- The text closes the brackets that it opens, and no others. -/
abbrev Balanced (text : String) : Prop :=
  ∀ expected, unclosed? expected text = some expected

@[simp] theorem unclosed?_append (expected : List Char) (a b : String) :
    unclosed? expected (a ++ b) = (unclosed? expected a).bind fun after => unclosed? after b := by
  rw [unclosed?, String.toList_append]
  exact readChars?_append expected a.toList b.toList

/-- What a literal closes and opens can be read off its characters. -/
theorem unclosed?_literal (h : readChars? expected chars = some front) (outer : List Char) :
    unclosed? (expected ++ outer) (no_index (String.ofList chars)) = some (front ++ outer) := by
  rw [unclosed?, String.toList_ofList]
  exact readChars?_append_expected h outer

-- The pieces of the output have a few shapes. Each is stated by itself, since reading can be
-- decided only where all characters are known.

@[simp] theorem balanced_literal (h : readChars? [] chars = some []) :
    Balanced (no_index (String.ofList chars)) :=
  unclosed?_literal h

@[simp] theorem unclosed?_open_paren (h : readChars? [] chars = some [')']) (outer : List Char) :
    unclosed? outer (no_index (String.ofList chars)) = some (')' :: outer) :=
  unclosed?_literal h outer

@[simp] theorem unclosed?_open_brace (h : readChars? [] chars = some ['}'])
    (outer : List Char) :
    unclosed? outer (no_index (String.ofList chars)) = some ('}' :: outer) :=
  unclosed?_literal h outer

@[simp] theorem unclosed?_close_paren (h : readChars? [')'] chars = some [])
    (outer : List Char) :
    unclosed? (')' :: outer) (no_index (String.ofList chars)) = some outer :=
  unclosed?_literal h outer

@[simp] theorem unclosed?_close_brace (h : readChars? ['}'] chars = some [])
    (outer : List Char) :
    unclosed? ('}' :: outer) (no_index (String.ofList chars)) = some outer :=
  unclosed?_literal h outer

/-- A block begins behind the list in parentheses. -/
@[simp] theorem unclosed?_paren_brace (h : readChars? [')'] chars = some ['}'])
    (outer : List Char) :
    unclosed? (')' :: outer) (no_index (String.ofList chars)) = some ('}' :: outer) :=
  unclosed?_literal h outer

/-- A block begins behind another one. -/
@[simp] theorem unclosed?_brace_brace (h : readChars? ['}'] chars = some ['}'])
    (outer : List Char) :
    unclosed? ('}' :: outer) (no_index (String.ofList chars)) = some ('}' :: outer) :=
  unclosed?_literal h outer

theorem Balanced.append (ha : Balanced a) (hb : Balanced b) : Balanced (a ++ b) := by
  intro expected
  rw [unclosed?_append, ha, Option.bind_some, hb]

/-! ## Texts without brackets -/

/-- No bracket stands in the text. -/
def BracketFree (text : String) : Prop :=
  ∀ c ∈ text.toList, isBracket c = false

theorem BracketFree.balanced (h : BracketFree a) : Balanced a := fun expected => by
  have hnone : a.toList.filter isBracket = [] := by
    rw [List.filter_eq_nil_iff]
    intro c hc
    rw [h c hc]
    exact Bool.false_ne_true
  rw [unclosed?, ← readChars?_filter, hnone]
  rfl

theorem bracketFree_literal (h : chars.any isBracket = false) :
    BracketFree (no_index (String.ofList chars)) := by
  intro c hc
  rw [String.toList_ofList] at hc
  exact Bool.eq_false_iff.2 (List.any_eq_false.1 h c hc)

theorem BracketFree.append (ha : BracketFree a) (hb : BracketFree b) : BracketFree (a ++ b) := by
  intro c hc
  rw [String.toList_append, List.mem_append] at hc
  exact hc.elim (ha c) (hb c)

/-! ## Lines -/

namespace Code

variable {code : Code} {pieces : List Code}

/-- The closing brackets that are expected after some lines. -/
def unclosed? (expected : List Char) (code : Code) : Option (List Char) :=
  code.foldlM HandleWrap.unclosed? expected

/-- The lines close the brackets that they open, and no others. -/
abbrev Balanced (code : Code) : Prop :=
  ∀ expected, unclosed? expected code = some expected

-- Both by rewriting: an equation that holds by definition would make the kernel read the texts.

@[simp] theorem unclosed?_nil (expected : List Char) : unclosed? expected [] = some expected := by
  rw [unclosed?, List.foldlM_nil]
  rfl

@[simp] theorem unclosed?_cons (expected : List Char) (line : String) (rest : Code) :
    unclosed? expected (line :: rest) =
      (HandleWrap.unclosed? expected line).bind fun after => unclosed? after rest := by
  rw [unclosed?, List.foldlM_cons]
  rfl

@[simp] theorem unclosed?_append (expected : List Char) (first second : Code) :
    unclosed? expected (first ++ second) =
      (unclosed? expected first).bind fun after => unclosed? after second :=
  List.foldlM_append

theorem Balanced.append {first second : Code} (hfirst : first.Balanced)
    (hsecond : second.Balanced) : Balanced (first ++ second) := fun expected => by
  rw [unclosed?_append, hfirst, Option.bind_some, hsecond]

theorem balanced_of_forall (h : ∀ line ∈ code, HandleWrap.Balanced line) : code.Balanced := by
  intro expected
  induction code with
  | nil => rfl
  | cons line rest ih =>
      obtain ⟨hline, hrest⟩ := List.forall_mem_cons.1 h
      rw [unclosed?_cons, hline, Option.bind_some, ih hrest]

/-- Line ends are no brackets. -/
theorem unclosed?_render (expected : List Char) (code : Code) :
    HandleWrap.unclosed? expected code.render = unclosed? expected code := by
  induction code generalizing expected with
  | nil => rfl
  | cons line rest ih =>
      have hend : HandleWrap.Balanced "\n" := balanced_literal (by decide)
      rw [render, String.append_assoc, HandleWrap.unclosed?_append, unclosed?_cons]
      refine congrArg _ (funext fun after => ?_)
      rw [HandleWrap.unclosed?_append, hend, Option.bind_some, ih]

end Code

/-! ## Upper case -/

/-- The codes of the brackets. -/
theorem toNat_of_isBracket {c : Char} (h : isBracket c = true) :
    c.toNat ∈ [0x28, 0x29, 0x5b, 0x5d, 0x7b, 0x7d] := by
  rcases eq_of_isBracket h with rfl | rfl | rfl | rfl | rfl | rfl
  all_goals decide

theorem toNat_ofNat_of_isBracket {n : Nat} (h : isBracket (Char.ofNat n) = true) :
    n ∈ [0x28, 0x29, 0x5b, 0x5d, 0x7b, 0x7d] := by
  have hcode := toNat_of_isBracket h
  rcases Text.toNat_ofNat n with hn | hzero
  · rwa [hn] at hcode
  · rw [hzero] at hcode
    exact absurd hcode (by decide)

/-- Between the codes that a run maps to there is no bracket. -/
theorem not_bracket_of_upperRuns {run : Nat × Nat × Nat × Nat} (hrun : run ∈ Text.upperRuns) :
    (0x41 ≤ run.2.2.2 ∧ run.2.2.2 + (run.2.1 - run.1) < 0x5b) ∨ 0x7e ≤ run.2.2.2 := by
  revert run
  decide +kernel

theorem not_bracket_of_upperSequences {entry : Nat × List Nat}
    (hentry : entry ∈ Text.upperSequences) :
    ∀ code ∈ entry.2, isBracket (Char.ofNat code) = false := by
  revert entry
  decide +kernel

/-- No character turns into a bracket. -/
theorem not_bracket_of_mem_upperChar {c upper : Char} (hc : isBracket c = false)
    (hupper : upper ∈ Text.upperChar c) : isBracket upper = false := by
  unfold Text.upperChar at hupper
  split at hupper
  · next codes hcodes =>
      obtain ⟨code, hcode, rfl⟩ := List.mem_map.1 hupper
      obtain ⟨before, after, htable, _⟩ := List.lookup_eq_some_iff.1 hcodes
      have hentry : (c.toNat, codes) ∈ Text.upperSequences := htable ▸ List.mem_append_cons_self
      exact not_bracket_of_upperSequences hentry code hcode
  · split at hupper
    · next code hcode =>
        rw [List.mem_singleton.1 hupper, Bool.eq_false_iff]
        intro hbracket
        obtain ⟨run, hrun, hinRun⟩ := List.exists_of_findSome?_eq_some hcode
        have hnone := not_bracket_of_upperRuns hrun
        have hcodes := toNat_ofNat_of_isBracket hbracket
        obtain ⟨first, last, step, start⟩ := run
        simp only [Text.upperInRun?, Option.ite_none_right_eq_some, Option.some.injEq] at hinRun
        simp only [List.mem_cons, List.not_mem_nil, or_false] at hcodes
        dsimp only at hnone
        omega
    · rwa [List.mem_singleton.1 hupper]

theorem bracketFree_upperCase (h : BracketFree a) : BracketFree (Text.upperCase a) := by
  intro upper hupper
  rw [Text.upperCase, String.toList_ofList, List.mem_flatMap] at hupper
  obtain ⟨c, hc, hmem⟩ := hupper
  exact not_bracket_of_mem_upperChar (h c hc) hmem

end HandleWrap
