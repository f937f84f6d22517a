import HandleWrap.Json
import HandleWrap.Json.Number
import HandleWrap.Text.Affix
import HandleWrap.Text.Digits

set_option autoImplicit false

/-! # Reading JSON texts

`Json.scan` reads a text from left to right into a tree and stops at the first fault, which the tree
records. Strings are read in two steps: into pieces, one per character or escape, and then into
text, where two escapes that are halves of one character come together. -/

namespace HandleWrap.Json

/-- What is left of the text after a value; `none` if reading stopped inside it. -/
abbrev Rest := Option (List Char)

/-- The text without the space in front. -/
def skipSpace (text : List Char) : List Char :=
  text.dropWhile fun c => c == ' ' || c == '\n' || c == '\t' || c == '\r'

/-- Reading stops here. -/
def stopped (fault : Fault) : Json × Rest :=
  (.broken { fault }, none)

/-! ## Strings -/

/-- A character of a string, or the code unit of an escape. -/
inductive Piece where
  | char (c : Char)
  | code (n : Nat)

/-- The character that a one-letter escape stands for. -/
def escaped? : Char → Option Char
  | '"' => some '"'
  | '\\' => some '\\'
  | '/' => some '/'
  | 'b' => some '\x08'
  | 'f' => some '\x0c'
  | 'n' => some '\n'
  | 'r' => some '\r'
  | 't' => some '\t'
  | _ => none

/-- The pieces of a string after its opening quote, and what follows the closing quote. -/
def scanPieces : List Char → List Piece × Except Fault (List Char)
  | [] => ([], .error .ended)
  | '"' :: rest => ([], .ok rest)
  | ['\\'] => ([], .error .ended)
  | '\\' :: 'u' :: a :: b :: c :: d :: rest =>
    match Text.hexNumber? [a, b, c, d] with
    | some n =>
      let (pieces, after) := scanPieces rest
      (.code n :: pieces, after)
    | none =>
      ([], .error (if Text.byteCount (a :: b :: c :: d :: rest) < 4 then .ended else .malformed))
  | '\\' :: 'u' :: rest => ([], .error (if Text.byteCount rest < 4 then .ended else .malformed))
  | '\\' :: e :: rest =>
    match escaped? e with
    | some c =>
      let (pieces, after) := scanPieces rest
      (.char c :: pieces, after)
    | none => ([], .error .malformed)
  | c :: rest =>
    if c < ' ' then ([], .error .malformed)
    else
      let (pieces, after) := scanPieces rest
      (.char c :: pieces, after)

/-- The text of the pieces, if every half of a character stands next to its other half. The first
    half may stand last in a string that goes on (`unfinished`). -/
def assemble? (unfinished : Bool) : List Piece → Option (List Char)
  | [] => some []
  | .char c :: rest => (assemble? unfinished rest).map (c :: ·)
  | .code n :: rest =>
    if n < 0xD800 ∨ 0xDFFF < n then (assemble? unfinished rest).map (Char.ofNat n :: ·)
    else if 0xDC00 ≤ n then none
    else
      match rest with
      | .code m :: rest =>
        if 0xDC00 ≤ m ∧ m ≤ 0xDFFF then
          (assemble? unfinished rest).map
            (Char.ofNat (0x10000 + (n - 0xD800) * 0x400 + (m - 0xDC00)) :: ·)
        else none
      | .char _ :: _ => none
      | [] => if unfinished then some [] else none

/-- The text of a string after its opening quote. A string whose pieces make no text is passed over
    like any other. -/
def scanString (text : List Char) : Except Flaw String × Rest :=
  match scanPieces text with
  | (pieces, .ok rest) =>
    match assemble? false pieces with
    | some chars => (.ok (String.ofList chars), some rest)
    | none => (.error { fault := .malformed, skipped := none }, some rest)
  | (pieces, .error fault) =>
    match assemble? true pieces with
    | some _ => (.error { fault }, none)
    | none => (.error { fault := .malformed, skipped := some fault }, none)

/-- The value that is a string. -/
def ofString : Except Flaw String → Json
  | .ok value => .string value
  | .error flaw => .broken flaw

/-! ## Numbers and words -/

/-- A number breaks off where a digit is missing. At the end of the text its value ends too early,
    but a number that is passed over counts as malformed. -/
def digitMissing : List Char → Json × Rest
  | [] => (.broken { fault := .ended, skipped := some .malformed, named := .malformed }, none)
  | _ => stopped .malformed

/-- A number with these digits before and after the point and this exponent, if one is written.
    Digits for which its significand has no room only count by their place. -/
def numberValue (whole fraction : List Char) (exponent : Option Int) : Json :=
  let (high, dropped) := appendDigits 0 whole
  let (significand, ignored) := appendDigits high fraction
  let places : Int := dropped.length - (fraction.length - ignored.length)
  if isTooLarge significand (exponent.getD 0 + places) then
    .broken { fault := .malformed, skipped := none }
  else if fraction.isEmpty && exponent.isNone && dropped.isEmpty then .number (some high)
  else .number none

/-- The number with a minus sign in front. -/
def negated : Json → Json
  | .number _ => .number none
  | j => j

/-- The exponent of a number and what follows. -/
def scanExponent (whole fraction : List Char) : List Char → Json × Rest
  | 'e' :: rest | 'E' :: rest =>
    let (negative, digits) :=
      match rest with
      | '-' :: rest => (true, rest)
      | '+' :: rest => (false, rest)
      | rest => (false, rest)
    if (digits.head?.any Char.isDigit) then
      let n : Int := Text.decimal (digits.takeWhile Char.isDigit)
      (numberValue whole fraction (some (if negative then -n else n)),
        some (digits.dropWhile Char.isDigit))
    else digitMissing digits
  | rest => (numberValue whole fraction none, some rest)

/-- The part of a number after its whole digits. -/
def scanFraction (whole : List Char) : List Char → Json × Rest
  | '.' :: rest =>
    if (rest.head?.any Char.isDigit) then
      scanExponent whole (rest.takeWhile Char.isDigit) (rest.dropWhile Char.isDigit)
    else digitMissing rest
  | rest => scanExponent whole [] rest

/-- The number without its sign. -/
def scanNumber : List Char → Json × Rest
  | '0' :: rest =>
    if (rest.head?.any Char.isDigit) then stopped .malformed else scanFraction ['0'] rest
  | text =>
    if (text.head?.any Char.isDigit) then
      scanFraction (text.takeWhile Char.isDigit) (text.dropWhile Char.isDigit)
    else digitMissing text

/-- The value if the text goes on with `word`. -/
def scanWord (value : Json) : List Char → List Char → Json × Rest
  | [], text => (value, some text)
  | _ :: _, [] => (.broken { fault := .ended, named := .malformed }, none)
  | w :: word, c :: text => if w = c then scanWord value word text else stopped .malformed

/-! ## Values -/

/-- A member should stand here, but none does. -/
def noMember (fault : Fault) : List (Key × Json) × Option Fault × Rest :=
  ([(.error fault, .broken { fault })], none, none)

mutual

/-- The value in front of the text. The first argument bounds the nesting and is never used up by a
    text of that length. -/
def scanValue : Nat → List Char → Json × Rest
  | 0, _ => stopped .malformed
  | fuel + 1, text =>
    match skipSpace text with
    | [] => stopped .ended
    | '"' :: rest =>
      let (value, rest) := scanString rest
      (ofString value, rest)
    | '[' :: rest =>
      match skipSpace rest with
      | [] => (.array [] (some .ended), none)
      | ']' :: rest => (.list [], some rest)
      | rest =>
        let (items, cut, rest) := scanItems fuel rest
        (.array items cut, rest)
    | '{' :: rest =>
      match skipSpace rest with
      | '}' :: rest => (.record [], some rest)
      | rest =>
        let (members, cut, rest) := scanMembers fuel rest
        (.object members cut, rest)
    | 'n' :: rest => scanWord .null ['u', 'l', 'l'] rest
    | 't' :: rest => scanWord (.bool true) ['r', 'u', 'e'] rest
    | 'f' :: rest => scanWord (.bool false) ['a', 'l', 's', 'e'] rest
    | '-' :: rest =>
      let (value, rest) := scanNumber rest
      (negated value, rest)
    | c :: rest => if c.isDigit then scanNumber (c :: rest) else stopped .malformed

/-- The elements of an array from the next one on. -/
def scanItems : Nat → List Char → List Json × Option Fault × Rest
  | 0, _ => ([], some .malformed, none)
  | fuel + 1, text =>
    match scanValue fuel text with
    | (item, none) => ([item], none, none)
    | (item, some rest) =>
      match skipSpace rest with
      | [] => ([item], some .ended, none)
      | ']' :: rest => ([item], none, some rest)
      | ',' :: rest =>
        let (items, cut, rest) := scanItems fuel rest
        (item :: items, cut, rest)
      | _ => ([item], some .malformed, none)

/-- The members of an object from the next one on. -/
def scanMembers : Nat → List Char → List (Key × Json) × Option Fault × Rest
  | 0, _ => noMember .malformed
  | fuel + 1, text =>
    match skipSpace text with
    | [] => noMember .ended
    | '"' :: rest =>
      let (name, rest) := scanString rest
      let key := name.mapError Flaw.fault
      match rest.map skipSpace with
      | none => ([(key, ofString name)], none, none)
      | some [] => ([(key, .broken { fault := .ended })], none, none)
      | some (':' :: rest) =>
        match scanValue fuel rest with
        | (value, none) => ([(key, value)], none, none)
        | (value, some rest) =>
          match skipSpace rest with
          | [] => ([(key, value)], some .ended, none)
          | '}' :: rest => ([(key, value)], none, some rest)
          | ',' :: rest =>
            let (members, cut, rest) := scanMembers fuel rest
            ((key, value) :: members, cut, rest)
          | _ => ([(key, value)], some .malformed, none)
      | some _ => ([(key, .broken { fault := .malformed })], none, none)
    | _ => noMember .malformed

end

/-- The value that a text holds, read as far as possible, and whether something follows it. -/
def scan (text : String) : Json × Bool :=
  let chars := text.toList
  match scanValue (2 * chars.length + 2) chars with
  | (value, some rest) => (value, !(skipSpace rest).isEmpty)
  | (value, none) => (value, false)

end HandleWrap.Json
