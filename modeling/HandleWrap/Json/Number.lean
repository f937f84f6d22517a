import HandleWrap.Text.Digits

set_option autoImplicit false

/-! # The range of JSON numbers

A number is read as a significand below `2 ^ 64` and a power of ten, and has to be a finite
double-precision number. Both factors are rounded to 53 binary digits before they are multiplied, so
the rounded factors decide whether a number is too large. A small number is never an error. -/

namespace HandleWrap.Json

/-- Puts digits behind a number while it stays below `2 ^ 64`, and gives the digits left over. -/
def appendDigits (n : Nat) : List Char → Nat × List Char
  | [] => (n, [])
  | digit :: rest =>
    let longer := 10 * n + Text.decimal [digit]
    if longer < Nat.pow 2 64 then appendDigits longer rest else (n, digit :: rest)

/-- The nearest number that has at most 53 binary digits before its trailing zeros; of two, the one
    whose 53rd digit is zero. -/
def roundTo53Bits (n : Nat) : Nat :=
  let unit := Nat.pow 2 (n.log2 + 1 - 53)
  let whole := n / unit
  let rest := n % unit
  if unit < 2 * rest ∨ unit = 2 * rest ∧ whole % 2 = 1 then (whole + 1) * unit else whole * unit

/-- Whether `significand * 10 ^ exponent` is beyond the finite double-precision numbers. -/
def isTooLarge (significand : Nat) (exponent : Int) : Bool :=
  if significand = 0 ∨ exponent < 0 then false
  else if 308 < exponent then true
  else
    let product := roundTo53Bits significand * roundTo53Bits (Nat.pow 10 exponent.toNat)
    decide (Nat.pow 2 1024 - Nat.pow 2 970 ≤ product)

end HandleWrap.Json
