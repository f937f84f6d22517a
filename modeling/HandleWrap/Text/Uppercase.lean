import HandleWrap.Text.CaseTable

set_option autoImplicit false

/-! # Upper case of a text

Upper case by the full Unicode rules: a character may become several (`ß` becomes `SS`), and a
character without an upper case stays. The rules look at one character at a time. -/

namespace HandleWrap.Text

/-- The upper case that the run gives to the character with code `n`, if it lies in the run. -/
def upperInRun? (n : Nat) (run : Nat × Nat × Nat × Nat) : Option Nat :=
  let (first, last, step, upper) := run
  if first ≤ n ∧ n ≤ last ∧ (n - first) % step = 0 then some (upper + (n - first)) else none

/-- The upper case of a character. -/
def upperChar (c : Char) : List Char :=
  match upperSequences.lookup c.toNat with
  | some codes => codes.map Char.ofNat
  | none =>
    match upperRuns.findSome? (upperInRun? c.toNat) with
    | some code => [Char.ofNat code]
    | none => [c]

/-- A code stands for the character with that code, or for the one with the code zero. -/
theorem toNat_ofNat (n : Nat) : (Char.ofNat n).toNat = n ∨ (Char.ofNat n).toNat = 0 := by
  by_cases hvalid : n.isValidChar
  · rw [Char.ofNat, dif_pos hvalid]
    exact .inl rfl
  · rw [Char.ofNat, dif_neg hvalid]
    exact .inr rfl

/-- The upper case of a text. -/
def upperCase (text : String) : String :=
  String.ofList (text.toList.flatMap upperChar)

end HandleWrap.Text
