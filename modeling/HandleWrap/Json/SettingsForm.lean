import HandleWrap.Json.Decode
import HandleWrap.Settings

set_option autoImplicit false

/-! # Settings as JSON

The JSON form of settings. Every field may be left out and then has its standard value; other fields
are errors. -/

namespace HandleWrap

open Json

/-- The JSON form of settings. -/
def Settings.toJson (s : Settings) : Json :=
  .record [("exceptions", .bool s.exceptions), ("extensions", .bool s.extensions),
    ("namespace", .string s.targetNamespace), ("c_prefix", .string s.cPrefix),
    ("noexceptions_namespace", .string s.quietNamespace),
    ("renames", .record (s.renames.entries.map fun rename => (rename.1, .string rename.2))),
    ("header_guard", match s.headerGuard with
      | some guard => .string guard
      | none => .null),
    ("includes", .list (s.includes.map .string))]

/-- The form of settings. -/
def settingsForm : RecordForm Settings where
  fields := ["exceptions", "extensions", "namespace", "c_prefix", "noexceptions_namespace",
    "renames", "header_guard", "includes"]
  closed := true
  read := fun origin field value s => do
    match field with
    | "exceptions" => return { s with exceptions := ← value.readBool }
    | "extensions" => return { s with extensions := ← value.readBool }
    | "namespace" => return { s with targetNamespace := ← value.readString }
    | "c_prefix" => return { s with cPrefix := ← value.readString }
    | "noexceptions_namespace" => return { s with quietNamespace := ← value.readString }
    | "renames" => return { s with renames := ← value.readMap origin fun _ => readString }
    | "header_guard" => return { s with headerGuard := ← value.readOption readString }
    | _ => return { s with includes := ← value.readList origin fun _ => readString }

/-- Decodes settings. -/
def Settings.ofJson (origin : Origin) (j : Json) : Decoded Settings := do
  let (settings, _) ← readRecord settingsForm origin .standard j
  return settings

end HandleWrap
