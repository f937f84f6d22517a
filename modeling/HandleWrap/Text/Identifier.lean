set_option autoImplicit false

/-! # Identifiers

An identifier is a letter or underscore followed by letters, digits and underscores, all of them
ASCII. -/

namespace HandleWrap.Text

/-- A character that an identifier can begin with. -/
def isIdentifierStart (c : Char) : Bool :=
  c.isAlpha || c == '_'

/-- A character that an identifier can go on with. -/
def isIdentifierPart (c : Char) : Bool :=
  c.isAlphanum || c == '_'

/-- Whether a text is an identifier; the empty text is none. -/
def isIdentifier (text : String) : Bool :=
  match text.toList with
  | [] => false
  | c :: rest => isIdentifierStart c && rest.all isIdentifierPart

end HandleWrap.Text
