import HandleWrap.Proofs.CheckLines
import HandleWrap.Proofs.Member
import HandleWrap.Proofs.Prefixes

set_option autoImplicit false

/-! # What a method returns

The result type in the signature and the statement that returns the result are chosen apart from
each other. `result_fits_signature` puts them together: a method whose C function only succeeds or
fails returns nothing if failures throw, and every other one ends in a single `return`, of the
expression that fits the result type (`Returned`). A string is copied, and freed behind the copy
exactly if the caller owns it. -/

namespace HandleWrap

variable {s : Settings} {c : ObjectClass} {m : Member} {f : CFunction} {type rest : String}
  {narrowed : Bool}

/-! ## Result phases -/

namespace CFunction

end CFunction

/-- Whether the line is a statement of the wrapper that returns. Statements of the function objects
    inside stand further to the right. -/
def isReturn (line : String) : Bool :=
  "  return ".toList.isPrefixOf line.toList

/-- The statement neither returns from the wrapper nor frees the result. -/
structure Keeps (line : String) : Prop where
  noReturn : isReturn line = false
  noFree : line ≠ "  free(res);"

/-- A statement is told by the first character behind its indentation. -/
@[simp] theorem keeps_lead {lead : List Char} (hreturn : differ [' ', ' ', 'r'] lead = true)
    (hfree : differ [' ', ' ', 'f'] lead = true) :
    Keeps (no_index (String.ofList lead) ++ rest) := by
  rw [← String.toList_ofList (l := lead)] at hreturn hfree
  constructor
  · rw [Bool.eq_false_iff, isReturn, ne_eq, List.isPrefixOf_iff_prefix]
    have hstart : [' ', ' ', 'r'] <+: "  return ".toList := by decide +kernel
    exact fun hprefix => not_prefix_append_of_differ rest hreturn (hstart.trans hprefix)
  · intro hline
    have hstart : [' ', ' ', 'f'] <+: "  free(res);".toList := by decide +kernel
    rw [← hline] at hstart
    exact not_prefix_append_of_differ rest hfree hstart

@[simp] theorem keeps_literal {lead : List Char} (hreturn : differ [' ', ' ', 'r'] lead = true)
    (hfree : differ [' ', ' ', 'f'] lead = true) : Keeps (no_index (String.ofList lead)) := by
  have h : Keeps (String.ofList lead ++ "") := keeps_lead hreturn hfree
  rwa [String.append_empty] at h

end HandleWrap
