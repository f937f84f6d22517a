set_option autoImplicit false

/-! # Generated text as lines

Everything that is generated is a list of lines. A line holds no line end of its own (unless a name
given by the user holds one), and rendering puts one after every line, so rendering turns the
concatenation of pieces into the concatenation of texts (`render_append`). -/

namespace HandleWrap

/-- Lines of generated text, each without its line end. -/
abbrev Code := List String

namespace Code

/-- The text of the lines, each followed by a line end. -/
def render : Code → String
  | [] => ""
  | line :: rest => line ++ "\n" ++ render rest

/-- The pieces with one blank line between any two neighbours. -/
def spaced : List Code → Code
  | [] => []
  | [piece] => piece
  | piece :: rest => piece ++ "" :: spaced rest

/-- The pieces that hold a line, with one blank line between any two of them. -/
def sections (pieces : List Code) : Code :=
  spaced (pieces.filter fun piece => !piece.isEmpty)

/-- The expressions as one argument list, separated by commas. -/
def commaSeparated (items : List String) : String :=
  ", ".intercalate items

theorem render_append (a b : Code) : render (a ++ b) = render a ++ render b := by
  induction a with
  | nil => simp [render]
  | cons line rest ih => simp [render, ih, String.append_assoc]

end Code

end HandleWrap
