import HandleWrap.Text.Digits

set_option autoImplicit false

/-! # TOML documents

A TOML document as the list of its statements, in order: assignments to dotted keys, and headers
that say which table the assignments after them belong to. What the statements mean together is left
to their reader. Numbers are not read, since no setting is one; a moment in time is read without its
value. -/

namespace HandleWrap.Toml

/-- A value in a document. -/
inductive Value where
  | text (value : String)
  | bool (value : Bool)
  /-- A date, a time or both. -/
  | moment
  | array (items : List Value)
  /-- A table written in one line: its dotted keys with their values. -/
  | table (entries : List (List String × Value))
deriving Repr, Inhabited

/-- One statement of a document. -/
inductive Statement where
  /-- The assignments that follow belong to this table. -/
  | header (path : List String)
  /-- The assignments that follow belong to a new element of this array of tables. -/
  | arrayHeader (path : List String)
  | assign (path : List String) (value : Value)
deriving Repr, Inhabited

/-! ## Space, lines and comments -/

/-- A space or tab. -/
def isSpace (c : Char) : Bool :=
  c == ' ' || c == '\t'

/-- A character that may stand in a line: no control character but the tab. -/
def isPlain (c : Char) : Bool :=
  c == '\t' || (' ' ≤ c && c != '\x7f')

/-- The text without the space in front. -/
def dropSpace (text : List Char) : List Char :=
  text.dropWhile isSpace

/-- The text without the comment in front. -/
def dropComment : List Char → List Char
  | '#' :: rest => rest.dropWhile isPlain
  | text => text

/-- What follows a line end. -/
def newline? : List Char → Option (List Char)
  | '\n' :: rest => some rest
  | '\r' :: '\n' :: rest => some rest
  | _ => none

/-- What follows the line, if nothing but space and a comment is left of it. -/
def lineTail? (text : List Char) : Option (List Char) :=
  match dropComment (dropSpace text) with
  | [] => some []
  | rest => newline? rest

/-- What follows any space, comments and line ends. -/
def dropLines : Nat → List Char → List Char
  | 0, text => text
  | fuel + 1, text =>
    match newline? (dropComment (dropSpace text)) with
    | some rest => dropLines fuel rest
    | none => dropSpace text

/-! ## Strings -/

/-- The character with that code in hexadecimal digits. -/
def hexChar? (digits : List Char) : Option Char := do
  let n ← Text.hexNumber? digits
  if n.isValidChar then some (Char.ofNat n) else none

/-- The character that a one-letter escape stands for. -/
def escaped? : Char → Option Char
  | 'b' => some '\x08'
  | 'f' => some '\x0c'
  | 'n' => some '\n'
  | 'r' => some '\r'
  | 't' => some '\t'
  | '"' => some '"'
  | '\\' => some '\\'
  | _ => none

/-- Puts a character in front of what was read. -/
def prepend (c : Char) (read : Option (List Char × List Char)) : Option (List Char × List Char) :=
  read.map fun (chars, rest) => (c :: chars, rest)

/-- A string with escapes, after its opening quote, and what follows its closing quote. -/
def basicString : List Char → Option (List Char × List Char)
  | [] => none
  | '"' :: rest => some ([], rest)
  | '\\' :: 'u' :: a :: b :: c :: d :: rest => do
    prepend (← hexChar? [a, b, c, d]) (basicString rest)
  | '\\' :: 'U' :: a :: b :: c :: d :: e :: f :: g :: h :: rest => do
    prepend (← hexChar? [a, b, c, d, e, f, g, h]) (basicString rest)
  | '\\' :: e :: rest => do prepend (← escaped? e) (basicString rest)
  | c :: rest => if isPlain c && c != '\\' then prepend c (basicString rest) else none

/-- A string without escapes, after its opening quote, and what follows its closing quote. -/
def literalString : List Char → Option (List Char × List Char)
  | [] => none
  | '\'' :: rest => some ([], rest)
  | c :: rest => if isPlain c then prepend c (literalString rest) else none

/-- The end of a string of several lines after three quotes: up to two more belong to it. -/
def closing (quote : Char) : List Char → List Char × List Char
  | a :: b :: rest =>
    if a = quote then
      if b = quote then ([quote, quote], rest) else ([quote], b :: rest)
    else ([], a :: b :: rest)
  | [a] => if a = quote then ([quote], []) else ([], [a])
  | [] => ([], [])

/-- Whether nothing but space is left of the line. -/
def atLineEnd (text : List Char) : Bool :=
  (newline? (dropSpace text)).isSome

/-- A string with escapes over several lines, after its opening quotes. After a backslash at the
    end of a line the space in front of the next character is left out (`trim`). -/
def basicLines : Bool → List Char → Option (List Char × List Char)
  | _, [] => none
  | trim, c :: rest =>
    if trim && (isSpace c || c == '\n') then basicLines true rest
    else if c == '\r' then if rest.head? = some '\n' then basicLines trim rest else none
    else if c == '\n' then prepend '\n' (basicLines false rest)
    else if c == '"' then
      match rest with
      | '"' :: '"' :: rest => some (closing '"' rest)
      | rest => prepend '"' (basicLines false rest)
    else if c == '\\' then
      if atLineEnd rest then basicLines true rest
      else
        match rest with
        | 'u' :: a :: b :: c :: d :: rest => do
          prepend (← hexChar? [a, b, c, d]) (basicLines false rest)
        | 'U' :: a :: b :: c :: d :: e :: f :: g :: h :: rest => do
          prepend (← hexChar? [a, b, c, d, e, f, g, h]) (basicLines false rest)
        | e :: rest => do prepend (← escaped? e) (basicLines false rest)
        | [] => none
    else if isPlain c then prepend c (basicLines false rest)
    else none

/-- A string without escapes over several lines, after its opening quotes. -/
def literalLines : List Char → Option (List Char × List Char)
  | [] => none
  | c :: rest =>
    if c == '\r' then if rest.head? = some '\n' then literalLines rest else none
    else if c == '\n' then prepend '\n' (literalLines rest)
    else if c == '\'' then
      match rest with
      | '\'' :: '\'' :: rest => some (closing '\'' rest)
      | rest => prepend '\'' (literalLines rest)
    else if isPlain c then prepend c (literalLines rest)
    else none

/-- A line end right after the opening quotes does not belong to the string. -/
def afterOpening (text : List Char) : List Char :=
  (newline? text).getD text

/-- A string of any kind. -/
def string? : List Char → Option (String × List Char)
  | '"' :: '"' :: '"' :: rest => (basicLines false (afterOpening rest)).map ofChars
  | '"' :: rest => (basicString rest).map ofChars
  | '\'' :: '\'' :: '\'' :: rest => (literalLines (afterOpening rest)).map ofChars
  | '\'' :: rest => (literalString rest).map ofChars
  | _ => none
where
  ofChars (read : List Char × List Char) : String × List Char :=
    (String.ofList read.1, read.2)

/-! ## Keys -/

/-- A character of a key without quotes. -/
def isBareKey (c : Char) : Bool :=
  c.isAlphanum || c == '_' || c == '-'

/-- One part of a dotted key. -/
def simpleKey? : List Char → Option (String × List Char)
  | '"' :: rest => (basicString rest).map fun (chars, rest) => (String.ofList chars, rest)
  | '\'' :: rest => (literalString rest).map fun (chars, rest) => (String.ofList chars, rest)
  | text =>
    let name := text.takeWhile isBareKey
    if name.isEmpty then none else some (String.ofList name, text.dropWhile isBareKey)

/-- A dotted key with the space around it. -/
def key? : Nat → List Char → Option (List String × List Char)
  | 0, _ => none
  | fuel + 1, text => do
    let (name, rest) ← simpleKey? (dropSpace text)
    match dropSpace rest with
    | '.' :: rest =>
      let (path, rest) ← key? fuel rest
      return (name :: path, rest)
    | rest => return ([name], rest)

/-! ## Moments in time -/

/-- The number that the first `n` characters stand for, if they are digits. -/
def digits? (n : Nat) (text : List Char) : Option (Nat × List Char) :=
  let front := text.take n
  if front.length = n ∧ front.all Char.isDigit then
    some (Text.decimal front, text.drop n)
  else none

/-- A number of two digits within bounds. -/
def twoDigits? (low high : Nat) (text : List Char) : Option (List Char) := do
  let (n, rest) ← digits? 2 text
  if low ≤ n ∧ n ≤ high then some rest else none

/-- What follows a character. -/
def after? (c : Char) : List Char → Option (List Char)
  | d :: rest => if d = c then some rest else none
  | [] => none

/-- Number of days of a month. -/
def daysIn (year month : Nat) : Nat :=
  if month = 2 then
    if year % 4 = 0 ∧ (year % 100 ≠ 0 ∨ year % 400 = 0) then 29 else 28
  else if month = 4 ∨ month = 6 ∨ month = 9 ∨ month = 11 then 30
  else 31

/-- What follows a date. -/
def date? (text : List Char) : Option (List Char) := do
  let (year, rest) ← digits? 4 text
  let (month, rest) ← digits? 2 (← after? '-' rest)
  if month < 1 ∨ 12 < month then none
  twoDigits? 1 (daysIn year month) (← after? '-' rest)

/-- What follows a time of day. -/
def time? (text : List Char) : Option (List Char) := do
  let rest ← twoDigits? 0 23 text
  let rest ← twoDigits? 0 59 (← after? ':' rest)
  let rest ← twoDigits? 0 60 (← after? ':' rest)
  match rest with
  | '.' :: fraction =>
    if fraction.head?.any Char.isDigit then some (fraction.dropWhile Char.isDigit) else none
  | rest => some rest

/-- What follows the distance to universal time, if there is one. -/
def offset? : List Char → Option (List Char)
  | 'Z' :: rest | 'z' :: rest => some rest
  | '+' :: rest | '-' :: rest => do
    let rest ← twoDigits? 0 23 rest
    twoDigits? 0 59 (← after? ':' rest)
  | rest => some rest

/-- What follows a date, a time of day, or both. -/
def moment? (text : List Char) : Option (List Char) :=
  match date? text with
  | none => time? text
  | some rest =>
    match rest with
    | 'T' :: more | 't' :: more | ' ' :: more =>
      match time? more with
      | some rest => offset? rest
      | none => some rest
    | _ => some rest

/-! ## Values -/

/-- What follows `word`. -/
def afterWord? (word text : List Char) : Option (List Char) :=
  if word.isPrefixOf text then some (text.drop word.length) else none

mutual

/-- A value. The first argument bounds the nesting and is never used up by a text of that
    length. -/
def value? : Nat → List Char → Option (Value × List Char)
  | 0, _ => none
  | fuel + 1, text =>
    match text with
    | '[' :: rest => do
      let (items, rest) ← items? fuel (dropLines fuel rest)
      return (.array items, rest)
    | '{' :: rest =>
      match dropSpace rest with
      | '}' :: rest => some (.table [], rest)
      | rest => do
        let (entries, rest) ← entries? fuel rest
        return (.table entries, rest)
    | 't' :: rest => (afterWord? ['r', 'u', 'e'] rest).map fun rest => (.bool true, rest)
    | 'f' :: rest => (afterWord? ['a', 'l', 's', 'e'] rest).map fun rest => (.bool false, rest)
    | _ =>
      ((string? text).map fun (s, rest) => (.text s, rest)).or
        ((moment? text).map fun rest => (.moment, rest))

/-- The elements of an array from the next one on, and what follows its bracket. -/
def items? : Nat → List Char → Option (List Value × List Char)
  | 0, _ => none
  | fuel + 1, text =>
    match text with
    | ']' :: rest => some ([], rest)
    | _ => do
      let (item, rest) ← value? fuel text
      match dropLines fuel rest with
      | ']' :: rest => return ([item], rest)
      | ',' :: rest =>
        let (items, rest) ← items? fuel (dropLines fuel rest)
        return (item :: items, rest)
      | _ => none

/-- The entries of a table in one line from the next one on, and what follows its brace. -/
def entries? : Nat → List Char → Option (List (List String × Value) × List Char)
  | 0, _ => none
  | fuel + 1, text => do
    let (path, rest) ← key? fuel text
    let (value, rest) ← value? fuel (dropSpace (← after? '=' rest))
    match dropSpace rest with
    | '}' :: rest => return ([(path, value)], rest)
    | ',' :: rest =>
      let (entries, rest) ← entries? fuel rest
      return ((path, value) :: entries, rest)
    | _ => none

end

/-! ## Documents -/

/-- The statements from the next line on. -/
def statements? : Nat → List Char → Option (List Statement)
  | 0, _ => none
  | fuel + 1, text =>
    match dropSpace text with
    | [] => some []
    | '#' :: _ | '\n' :: _ | '\r' :: _ => do statements? fuel (← lineTail? text)
    | '[' :: '[' :: rest => do
      let (path, rest) ← key? fuel rest
      let rest ← lineTail? (← after? ']' (← after? ']' rest))
      return .arrayHeader path :: (← statements? fuel rest)
    | '[' :: rest => do
      let (path, rest) ← key? fuel rest
      let rest ← lineTail? (← after? ']' rest)
      return .header path :: (← statements? fuel rest)
    | rest => do
      let (path, rest) ← key? fuel rest
      let (value, rest) ← value? fuel (dropSpace (← after? '=' rest))
      return .assign path value :: (← statements? fuel (← lineTail? rest))

/-- The statements of a document, if it is one; a byte-order mark may stand in front. -/
def document? (text : String) : Option (List Statement) :=
  let chars := text.toList
  let chars := if chars.head? = some '\uFEFF' then chars.tail else chars
  statements? (2 * chars.length + 2) chars

end HandleWrap.Toml
