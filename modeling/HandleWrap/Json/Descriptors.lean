import HandleWrap.Json.Decode
import HandleWrap.Json.Scan

set_option autoImplicit false

/-! # Descriptors as JSON

The JSON form of types, functions, classes and tables, in both directions. A type says its `kind`
first of all: its other fields are kept until the kind is known, wherever it stands. Encoding
writes every field, but for the name of a class that is no view. -/

namespace HandleWrap

open Json

/-! ## Encoding -/

/-- A value that may be missing. -/
def Json.ofOption {α : Type} (encode : α → Json) : Option α → Json
  | some value => encode value
  | none => .null

/-- The JSON form of an ownership mark. -/
def Ownership.toJson (ownership : Ownership) : Json :=
  .string ownership.name

mutual

/-- The JSON form of a type. -/
def CType.toJson : CType → Json
  | .handle name => .record [("kind", .string "handle"), ("name", .string name)]
  | .context => .record [("kind", .string "context")]
  | .bool => .record [("kind", .string "bool")]
  | .stat => .record [("kind", .string "stat")]
  | .enumeration name => .record [("kind", .string "enum"), ("name", .string name)]
  | .integer name => .record [("kind", .string "integer"), ("name", .string name)]
  | .string => .record [("kind", .string "string")]
  | .callback ⟨result, args⟩ =>
    .record [("kind", .string "callback"), ("return_type", result.toJson),
      ("args", .list (argsToJson args))]
  | .userData => .record [("kind", .string "user_data")]
  | .other spelling => .record [("kind", .string "other"), ("spelling", .string spelling)]

/-- The JSON forms of the arguments of a callback. -/
def argsToJson : List CallbackArg → List Json
  | [] => []
  | ⟨type, ownership⟩ :: rest =>
    .record [("type", type.toJson), ("ownership", ownership.toJson)] :: argsToJson rest

end

/-- The JSON form of a parameter. -/
def Param.toJson (p : Param) : Json :=
  .record [("name", .string p.name), ("type", p.type.toJson), ("ownership", p.ownership.toJson)]

/-- The JSON form of a function. -/
def CFunction.toJson (f : CFunction) : Json :=
  .record [("name", .string f.name), ("return_type", f.returnType.toJson),
    ("gives_result", .bool f.givesResult), ("params", .list (f.params.map Param.toJson))]

/-- The JSON form of a class. -/
def ObjectClass.toJson (c : ObjectClass) : Json :=
  .record <|
    [("name", .string c.name)] ++
    (match c.subclassName with
      | some sub => [("subclass_name", .string sub)]
      | none => []) ++
    [("superclasses", .list (c.superclasses.map .string)),
      ("type_tag_accessor", .ofOption CFunction.toJson c.typeTagAccessor),
      ("equality", .ofOption CFunction.toJson c.equality),
      ("stringify", .ofOption CFunction.toJson c.stringify),
      ("constructors", .list (c.constructors.map CFunction.toJson)),
      ("methods", .record (c.methods.entries.map fun group =>
        (group.1, .list (group.2.map CFunction.toJson))))]

/-- The JSON form of a table. -/
def ClassTable.toJson (t : ClassTable) : Json :=
  .record [("classes", .list (t.toList.map ObjectClass.toJson))]

/-! ## Decoding types -/

/-- The ownership mark of that name. -/
def Ownership.ofName (name : String) : Ownership :=
  if name = "take" then .take else .keep

/-- Decodes an ownership mark. -/
def Ownership.ofJson (origin : Origin) (j : Json) : Decoded Ownership :=
  (j.readVariant origin ["take", "keep"]).map .ofName

/-- The kinds of types. -/
def typeKinds : List String :=
  ["handle", "context", "bool", "stat", "enum", "integer", "string", "callback", "user_data",
    "other"]

/-- The kind that a type says it is of. A kept value may also give its place among the kinds. -/
def readKind (origin : Origin) (j : Json) : Decoded String := do
  match origin, j with
  | .kept, .number (some n) =>
    match typeKinds[n]? with
    | some kind => return kind
    | none => throw .mismatch
  | _, j => checkVariant typeKinds (← j.readString)

/-- Reads a value that is kept for later. -/
def keep (origin : Origin) (j : Json) : Decoded Unit :=
  match origin with
  | .text room => endAt (j.readFault? room)
  | _ => .ok ()

/-- The kind among the members of an object; the values of the others are kept. -/
def kindOfMembers (origin : Origin) : Option String → List (Key × Json) → Decoded (Option String)
  | kind, [] => .ok kind
  | kind, (key, value) :: rest => do
    let name ← readKey key
    if name = "kind" then
      if kind.isSome then throw (.duplicateField "kind")
      let kind ← readKind origin value
      kindOfMembers origin (some kind) rest
    else
      keep origin value
      kindOfMembers origin kind rest

/-- The form of a type that has one field, a text. -/
def oneTextForm (field : String) : RecordForm (Option String) where
  fields := [field]
  closed := false
  read := fun _ _ value _ => value.readString.map some

/-- The value of the only field of a type. -/
def readOneText (field : String) (content : Json) : Decoded String := do
  let (value, missing) ← readRecord (oneTextForm field) .kept none content
  require missing field value

/-- Checks the content of a type that has no fields: an array must have no elements. -/
def readNoFields : Json → Decoded Unit
  | .array (_ :: _) _ => .error .mismatch
  | _ => .ok ()

/-- The type of a kind other than a callback. -/
def plainType (kind : String) (content : Json) : Decoded CType :=
  match kind with
  | "handle" => (readOneText "name" content).map .handle
  | "enum" => (readOneText "name" content).map .enumeration
  | "integer" => (readOneText "name" content).map .integer
  | "other" => (readOneText "spelling" content).map .other
  | "context" => (readNoFields content).map fun _ => .context
  | "bool" => (readNoFields content).map fun _ => .bool
  | "stat" => (readNoFields content).map fun _ => .stat
  | "string" => (readNoFields content).map fun _ => .string
  | _ => (readNoFields content).map fun _ => .userData

/-- The fields of a callback as far as they are known. -/
structure CallbackDraft where
  result : Option CType := none
  args : Option (List CallbackArg) := none

/-- The callback, if its fields are complete. -/
def CallbackDraft.finish (missing : String → JsonError) (draft : CallbackDraft) :
    Decoded Callback := do
  let result ← require missing "return_type" draft.result
  let args ← require missing "args" draft.args
  return ⟨result, args⟩

/-- The fields of a callback argument as far as they are known. -/
structure ArgDraft where
  type : Option CType := none
  ownership : Option Ownership := none

/-- The argument, if its fields are complete. -/
def ArgDraft.finish (missing : String → JsonError) (draft : ArgDraft) : Decoded CallbackArg := do
  let type ← require missing "type" draft.type
  return ⟨type, draft.ownership.getD .keep⟩

mutual

/-- Decodes a type. -/
def CType.ofJson (origin : Origin) : Json → Decoded CType
  | .object members cut => do
    let inner ← origin.enter
    let kind ← kindOfMembers inner none members
    endAt cut
    let kind ← require .missingField "kind" kind
    if kind = "callback" then
      let draft ← callbackMembers .kept {} members
      return .callback (← draft.finish .missingField)
    else plainType kind (.object members none)
  | .array [] cut => do
    endAt cut
    .error (.missingField "kind")
  | .array (first :: content) cut => do
    let inner ← origin.enter
    let kind ← readKind inner first
    content.forM (keep inner)
    endAt cut
    if kind = "callback" then
      let draft ← callbackElements .kept content
      return .callback (← draft.finish fun _ => .mismatch)
    else plainType kind (.list content)
  | j => .error j.unfit

/-- Decodes the signature of a callback. -/
def Callback.ofJson (origin : Origin) : Json → Decoded Callback
  | .object members cut => do
    let draft ← callbackMembers origin {} members
    endAt cut
    draft.finish .missingField
  | .array items cut => do
    let draft ← callbackElements origin items
    endAt cut
    draft.finish fun _ => .mismatch
  | j => .error j.unfit

/-- Collects the fields of a callback from the members of an object. -/
def callbackMembers (origin : Origin) (draft : CallbackDraft) :
    List (Key × Json) → Decoded CallbackDraft
  | [] => .ok draft
  | (key, value) :: rest => do
    let name ← readKey key
    if name = "return_type" then
      if draft.result.isSome then throw (.duplicateField "return_type")
      let result ← CType.ofJson origin value
      callbackMembers origin { draft with result := some result } rest
    else if name = "args" then
      if draft.args.isSome then throw (.duplicateField "args")
      let args ← argListOfJson origin value
      callbackMembers origin { draft with args := some args } rest
    else
      value.skip
      callbackMembers origin draft rest

/-- Collects the fields of a callback from the elements of an array. -/
def callbackElements (origin : Origin) : List Json → Decoded CallbackDraft
  | [] => .ok {}
  | [result] => do
    let result ← CType.ofJson origin result
    return { result := some result }
  | result :: args :: surplus => do
    let result ← CType.ofJson origin result
    let args ← argListOfJson origin args
    if !surplus.isEmpty then throw origin.surplus
    return { result := some result, args := some args }

/-- Decodes the arguments of a callback. -/
def argListOfJson (origin : Origin) : Json → Decoded (List CallbackArg)
  | .array items cut => do
    let args ← argsOfJson origin items
    endAt cut
    return args
  | j => .error j.unfit

/-- Decodes arguments of a callback one by one. -/
def argsOfJson (origin : Origin) : List Json → Decoded (List CallbackArg)
  | [] => .ok []
  | item :: rest => do
    let arg ← CallbackArg.ofJson origin item
    let args ← argsOfJson origin rest
    return arg :: args

/-- Decodes one argument of a callback. -/
def CallbackArg.ofJson (origin : Origin) : Json → Decoded CallbackArg
  | .object members cut => do
    let draft ← argMembers origin {} members
    endAt cut
    draft.finish .missingField
  | .array items cut => do
    let draft ← argElements origin items
    endAt cut
    draft.finish fun _ => .mismatch
  | j => .error j.unfit

/-- Collects the fields of an argument from the members of an object. -/
def argMembers (origin : Origin) (draft : ArgDraft) : List (Key × Json) → Decoded ArgDraft
  | [] => .ok draft
  | (key, value) :: rest => do
    let name ← readKey key
    if name = "type" then
      if draft.type.isSome then throw (.duplicateField "type")
      let type ← CType.ofJson origin value
      argMembers origin { draft with type := some type } rest
    else if name = "ownership" then
      if draft.ownership.isSome then throw (.duplicateField "ownership")
      let ownership ← Ownership.ofJson origin value
      argMembers origin { draft with ownership := some ownership } rest
    else
      value.skip
      argMembers origin draft rest

/-- Collects the fields of an argument from the elements of an array. -/
def argElements (origin : Origin) : List Json → Decoded ArgDraft
  | [] => .ok {}
  | [type] => do
    let type ← CType.ofJson origin type
    return { type := some type }
  | type :: ownership :: surplus => do
    let type ← CType.ofJson origin type
    let ownership ← Ownership.ofJson origin ownership
    if !surplus.isEmpty then throw origin.surplus
    return { type := some type, ownership := some ownership }

end

/-! ## Decoding functions and classes -/

/-- The fields of a parameter as far as they are known. -/
structure ParamDraft where
  name : Option String := none
  type : Option CType := none
  ownership : Option Ownership := none

/-- The form of a parameter. -/
def paramForm : RecordForm ParamDraft where
  fields := ["name", "type", "ownership"]
  closed := false
  read := fun origin field value draft =>
    match field with
    | "name" => do return { draft with name := some (← value.readString) }
    | "type" => do return { draft with type := some (← CType.ofJson origin value) }
    | _ => do return { draft with ownership := some (← Ownership.ofJson origin value) }

/-- Decodes a parameter. -/
def Param.ofJson (origin : Origin) (j : Json) : Decoded Param := do
  let (draft, missing) ← readRecord paramForm origin {} j
  let name ← require missing "name" draft.name
  let type ← require missing "type" draft.type
  return { name, type, ownership := draft.ownership.getD .keep }

/-- The fields of a function as far as they are known. -/
structure FunctionDraft where
  name : Option String := none
  returnType : Option CType := none
  givesResult : Option Bool := none
  params : Option (List Param) := none

/-- The form of a function. -/
def functionForm : RecordForm FunctionDraft where
  fields := ["name", "return_type", "gives_result", "params"]
  closed := false
  read := fun origin field value draft =>
    match field with
    | "name" => do return { draft with name := some (← value.readString) }
    | "return_type" => do return { draft with returnType := some (← CType.ofJson origin value) }
    | "gives_result" => do return { draft with givesResult := some (← value.readBool) }
    | _ => do return { draft with params := some (← value.readList origin Param.ofJson) }

/-- Decodes a function. -/
def CFunction.ofJson (origin : Origin) (j : Json) : Decoded CFunction := do
  let (draft, missing) ← readRecord functionForm origin {} j
  let name ← require missing "name" draft.name
  let returnType ← require missing "return_type" draft.returnType
  return { name, returnType
           givesResult := draft.givesResult.getD false
           params := draft.params.getD [] }

/-- The fields of a class as far as they are known; all but the name have default values. -/
structure ClassDraft where
  name : Option String := none
  rest : ObjectClass := {
    name := "" }

/-- The form of a class. -/
def classForm : RecordForm ClassDraft where
  fields := ["name", "subclass_name", "superclasses", "type_tag_accessor", "equality", "stringify",
    "constructors", "methods"]
  closed := false
  read := fun origin field value draft => do
    let c := draft.rest
    let function := CFunction.ofJson origin
    match field with
    | "name" => return { draft with name := some (← value.readString) }
    | "subclass_name" =>
      return { draft with rest := { c with subclassName := ← value.readOption readString } }
    | "superclasses" =>
      let names ← value.readList origin fun _ => readString
      return { draft with rest := { c with superclasses := names } }
    | "type_tag_accessor" =>
      return { draft with rest := { c with typeTagAccessor := ← value.readOption function } }
    | "equality" =>
      return { draft with rest := { c with equality := ← value.readOption function } }
    | "stringify" =>
      return { draft with rest := { c with stringify := ← value.readOption function } }
    | "constructors" =>
      let functions ← value.readList origin CFunction.ofJson
      return { draft with rest := { c with constructors := functions } }
    | _ =>
      let groups ← value.readMap origin fun origin => readList origin CFunction.ofJson
      return { draft with rest := { c with methods := groups } }

/-- Decodes a class. -/
def ObjectClass.ofJson (origin : Origin) (j : Json) : Decoded ObjectClass := do
  let (draft, missing) ← readRecord classForm origin {} j
  let name ← require missing "name" draft.name
  return { draft.rest with name }

/-- Decodes how a function is exposed. -/
def MethodKind.ofJson (origin : Origin) (j : Json) : Decoded MethodKind := do
  let name ← j.readVariant origin ["constructor", "static_method", "instance_method"]
  return match name with
    | "constructor" => .constructor
    | "static_method" => .staticMethod
    | _ => .instanceMethod

/-! ## Decoding tables -/

/-- The form of a table. -/
def tableForm : RecordForm (List ObjectClass) where
  fields := ["classes"]
  closed := false
  read := fun origin _ value _ => value.readList origin ObjectClass.ofJson

namespace ClassTable

/-- Decodes a table; its classes have to fit together. -/
def ofJson (origin : Origin) (j : Json) : Decoded ClassTable := do
  let (classes, _) ← readRecord tableForm origin [] j
  (ofClasses classes).mapError .table

/-- Decodes a table from a JSON text, in which nothing else may stand. -/
def ofText (text : String) : Decoded ClassTable := do
  let (value, more) := Json.scan text
  let table ← ofJson .wholeText value
  if more then throw (.fault .malformed)
  return table

end ClassTable

end HandleWrap
