import HandleWrap.ClassTable
import HandleWrap.Json

set_option autoImplicit false

/-! # Decoding JSON values

What the decoders of descriptors and settings share. A decoder walks through a value from left to
right and stops at the first thing that is wrong, be it a fault of the text or a value that does not
fit. A record is written as an object, or as an array of its fields in order of declaration
(`readRecord`). -/

namespace HandleWrap

/-- Why a JSON text or value is not what is asked for. -/
inductive JsonError where
  /-- The text stops being JSON. -/
  | fault (fault : Fault)
  /-- A value of the wrong type, or an array of the wrong length. -/
  | mismatch
  | missingField (field : String)
  | duplicateField (field : String)
  | unknownField (field : String) (expected : List String)
  | unknownVariant (variant : String) (expected : List String)
  /-- The classes do not make a table. -/
  | table (error : TableError)
deriving DecidableEq, Repr

namespace JsonError

/-- Text in grave accents. -/
def quoted (name : String) : String :=
  "`" ++ name ++ "`"

/-- A list of alternatives. -/
def oneOf : List String → String
  | [a, b] => quoted a ++ " or " ++ quoted b
  | names => "one of " ++ ", ".intercalate (names.map quoted)

/-- The message for the user. -/
def message : JsonError → String
  | fault .ended => "unexpected end of JSON text"
  | fault .malformed => "malformed JSON text"
  | mismatch => "unexpected JSON value"
  | missingField field => "missing field " ++ quoted field
  | duplicateField field => "duplicate field " ++ quoted field
  | unknownField field expected =>
    "unknown field " ++ quoted field ++ ", expected " ++ oneOf expected
  | unknownVariant variant expected =>
    "unknown variant " ++ quoted variant ++ ", expected " ++ oneOf expected
  | table error => error.message

end JsonError

/-- What comes out of decoding. -/
abbrev Decoded (α : Type) := Except JsonError α

/-- Where a value comes from. -/
inductive Origin where
  /-- It is read from a text in which at most `room` more brackets may be opened. -/
  | text (room : Nat)
  /-- It was built elsewhere. -/
  | value
  /-- It was read from a text before and kept until its type was known. -/
  | kept
deriving DecidableEq, Repr

/-- A text may have 127 brackets open at a time. -/
def Origin.wholeText : Origin :=
  .text 127

/-- The origin of what stands inside a bracket. -/
def Origin.enter : Origin → Decoded Origin
  | .text 0 => .error (.fault .malformed)
  | .text (room + 1) => .ok (.text room)
  | origin => .ok origin

/-- The error of an array that has more elements than there are fields. -/
def Origin.surplus : Origin → JsonError
  | .text _ => .fault .malformed
  | _ => .mismatch

namespace Json

/-- The error of a value that is not of the type asked for. -/
def unfit : Json → JsonError
  | .broken flaw => .fault flaw.fault
  | _ => .mismatch

/-- Fails with the fault that cuts an array or object off. -/
def endAt (cut : Option Fault) : Decoded Unit :=
  match cut with
  | some fault => .error (.fault fault)
  | none => .ok ()

/-- Passes over a value. -/
def skip (j : Json) : Decoded Unit :=
  endAt j.skipFault?

/-- The name of a member. -/
def readKey (key : Key) : Decoded String :=
  key.mapError .fault

/-! ## Plain values -/

/-- The text of a string. -/
def readString : Json → Decoded String
  | .string value => .ok value
  | j => .error j.unfit

/-- The truth value. -/
def readBool : Json → Decoded Bool
  | .bool value => .ok value
  | j => .error j.unfit

/-- The value, where `null` stands for none. -/
def readOption {α : Type} (read : Json → Decoded α) : Json → Decoded (Option α)
  | .null => .ok none
  | j => (read j).map some

/-- The elements of an array. -/
def readList {α : Type} (origin : Origin) (read : Origin → Json → Decoded α) :
    Json → Decoded (List α)
  | .array items cut => do
    let inner ← origin.enter
    let values ← items.mapM (read inner)
    endAt cut
    return values
  | j => .error j.unfit

/-- The members of an object, of which the last of one name counts. -/
def readMap {α : Type} (origin : Origin) (read : Origin → Json → Decoded α) :
    Json → Decoded (NameMap α)
  | .object members cut => do
    let inner ← origin.enter
    let entries ← members.mapM fun (key, value) => do return (← readKey key, ← read inner value)
    endAt cut
    return .ofList entries
  | j => .error j.unfit

/-! ## Names out of a fixed list -/

/-- Checks that a name is one of the list. -/
def checkVariant (names : List String) (name : String) : Decoded String :=
  if names.contains name then .ok name else .error (.unknownVariant name names)

/-- Checks that a value says nothing. -/
def readNothing (origin : Origin) : Json → Decoded Unit
  | .null => .ok ()
  | .object [] none => if origin = .kept then .ok () else .error .mismatch
  | j => .error j.unfit

/-- A name of the list: a string, or the name of the only member of an object that says nothing
    else. In a text, anything else is a fault. -/
def readVariant (origin : Origin) (names : List String) : Json → Decoded String
  | .string name => checkVariant names name
  | .object members cut => do
    let inner ← origin.enter
    match origin, members with
    | .text _, [] => .error (.fault (cut.getD .malformed))
    | .text _, (key, value) :: rest => do
      let name ← checkVariant names (← readKey key)
      readNothing inner value
      if rest.isEmpty then endAt cut else .error (.fault .malformed)
      return name
    | _, [(key, value)] => do
      let name ← checkVariant names (← readKey key)
      readNothing inner value
      return name
    | _, _ => .error .mismatch
  | .broken flaw => .error (.fault flaw.named)
  | _ =>
    match origin with
    | .text _ => .error (.fault .malformed)
    | _ => .error .mismatch

/-! ## Records -/

/-- How the fields of a record are collected into a draft. -/
structure RecordForm (δ : Type) where
  /-- The fields in order of declaration. -/
  fields : List String
  /-- Whether other fields are errors. -/
  closed : Bool
  /-- Puts the value of a field into the draft. -/
  read : Origin → String → Json → δ → Decoded δ

/-- Collects the members of an object; `seen` are the fields met so far. -/
def readFields {δ : Type} (form : RecordForm δ) (origin : Origin) :
    List String → δ → List (Key × Json) → Decoded δ
  | _, draft, [] => .ok draft
  | seen, draft, (key, value) :: rest => do
    let name ← readKey key
    if form.fields.contains name then
      if seen.contains name then throw (.duplicateField name)
      let draft ← form.read origin name value draft
      readFields form origin (name :: seen) draft rest
    else
      if form.closed then throw (.unknownField name form.fields)
      value.skip
      readFields form origin seen draft rest

/-- Collects the elements of an array as the fields in order. -/
def readElements {δ : Type} (form : RecordForm δ) (origin : Origin) :
    List String → δ → List Json → Decoded δ
  | _, draft, [] => .ok draft
  | [], _, _ :: _ => .error origin.surplus
  | field :: fields, draft, value :: rest => do
    let draft ← form.read origin field value draft
    readElements form origin fields draft rest

/-- Collects the fields of a record, and gives the error for a field that is still missing: only an
    object can name it. -/
def readRecord {δ : Type} (form : RecordForm δ) (origin : Origin) (draft : δ) :
    Json → Decoded (δ × (String → JsonError))
  | .object members cut => do
    let inner ← origin.enter
    let draft ← readFields form inner [] draft members
    endAt cut
    return (draft, .missingField)
  | .array items cut => do
    let inner ← origin.enter
    let draft ← readElements form inner form.fields draft items
    endAt cut
    return (draft, fun _ => .mismatch)
  | j => .error j.unfit

/-- The value of a field that must be there. -/
def require {α : Type} (missing : String → JsonError) (field : String) (value : Option α) :
    Decoded α :=
  match value with
  | some value => .ok value
  | none => .error (missing field)

end Json

end HandleWrap
