set_option autoImplicit false

/-! # JSON values

A JSON value as a tree. Reading a text (`Json.scan`) goes as far as the text is well formed, and the
tree records where it stopped: an array or object is `cut` by a fault after its last element, and a
value that could not be read at all is `broken`. A fault counts when it is met: what is only passed
over is checked less than what is read (`skipFault?`, `readFault?`). A value that was built, and not
read from a bad text, is whole (`Json.list`, `Json.record`). -/

namespace HandleWrap

/-- Why a text stops being JSON. -/
inductive Fault where
  /-- It ends too early. -/
  | ended
  /-- Something else stands where JSON would have to go on. -/
  | malformed
deriving DecidableEq, Repr, Inhabited

/-- What is wrong with something that is no value. -/
structure Flaw where
  /-- The fault met when its value is read. -/
  fault : Fault
  /-- The fault met, if any, when it is passed over. -/
  skipped : Option Fault := some fault
  /-- The fault met when one of a few names is asked for: whatever does not start like a string or
      an object is malformed then, however it goes on. -/
  named : Fault := fault
deriving Repr, Inhabited

/-- The name of a member, or the fault met when the name is read. -/
abbrev Key := Except Fault String

/-- A JSON value, read as far as possible. -/
inductive Json where
  | null
  | bool (value : Bool)
  /-- A number, with its value if it is written as a natural number: no other is ever asked for. -/
  | number (natural : Option Nat)
  | string (value : String)
  /-- An array, with the fault that cuts it off after the listed elements. -/
  | array (items : List Json) (cut : Option Fault)
  /-- An object with its members in order, with the fault that cuts it off after them. A member that
      is missing after a comma has a fault for its name and for its value. -/
  | object (members : List (Key × Json)) (cut : Option Fault)
  /-- Something that is no value. -/
  | broken (flaw : Flaw)
deriving Repr, Inhabited

namespace Json

/-- A whole array. -/
def list (items : List Json) : Json :=
  .array items none

/-- A whole object. -/
def record (members : List (String × Json)) : Json :=
  .object (members.map fun (name, value) => (.ok name, value)) none

/-! ## Faults inside a value -/

mutual

/-- The first fault met when the value is passed over. -/
def skipFault? : Json → Option Fault
  | .array items cut => (skipItems? items).or cut
  | .object members cut => (skipMembers? members).or cut
  | .broken flaw => flaw.skipped
  | _ => none

/-- The first fault met when the elements are passed over. -/
def skipItems? : List Json → Option Fault
  | [] => none
  | item :: rest => item.skipFault?.or (skipItems? rest)

/-- The first fault met when the members are passed over, whatever their names are. -/
def skipMembers? : List (Key × Json) → Option Fault
  | [] => none
  | (_, value) :: rest => value.skipFault?.or (skipMembers? rest)

end

mutual

/-- The first fault met when the whole value is read, where at most `room` brackets may be open at
    a time. -/
def readFault? (room : Nat) : Json → Option Fault
  | .array items cut =>
    match room with
    | 0 => some .malformed
    | room + 1 => (readItems? room items).or cut
  | .object members cut =>
    match room with
    | 0 => some .malformed
    | room + 1 => (readMembers? room members).or cut
  | .broken flaw => some flaw.fault
  | _ => none

/-- The first fault met when the elements are read. -/
def readItems? (room : Nat) : List Json → Option Fault
  | [] => none
  | item :: rest => (item.readFault? room).or (readItems? room rest)

/-- The first fault met when the members are read. -/
def readMembers? (room : Nat) : List (Key × Json) → Option Fault
  | [] => none
  | (.error fault, _) :: _ => some fault
  | (.ok _, value) :: rest => (value.readFault? room).or (readMembers? room rest)

end

end Json

end HandleWrap
